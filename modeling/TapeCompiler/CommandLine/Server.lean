import TapeCompiler.Arguments.Reader
import TapeCompiler.CommandLine.Report

/-!
# The command line of the service

The command starts the service at an address. It needs a server, which may not be installed.

## Main definitions

* `Serving` — how the service is to be started
* `Server.run` — runs a command line
-/

namespace TapeCompiler.CommandLine

/-- How the service is to be started. -/
structure Serving where
  /-- The address. -/
  host : Json := .text "127.0.0.1".toList
  /-- The number under which the service listens at that address. -/
  listening : Json := .int 8000
  /-- The level from which on messages are written. -/
  logLevel : Json := .text "info".toList

namespace Server

/-- The levels of messages. -/
def logLevels : List Text :=
  ["critical".toList, "error".toList, "warning".toList, "info".toList, "debug".toList]

/-- The flags of the command. -/
def flags : List (Flag Serving) :=
  [{ names := ["-h".toList, "--help".toList]
     effect := .help },
    { names := ["--host".toList]
      effect := .value Arguments.any fun v s => { s with host := v } },
    { names := ["--port".toList]
      effect := .value Arguments.integer fun v s => { s with listening := v } },
    { names := ["--log-level".toList]
      effect := .value (Arguments.choice logLevels) fun v s => { s with logLevel := v } }]

/-- How the command is called. -/
def usage : Text :=
  ("usage: bfc [-h] [--host HOST] [--port PORT]\n" ++
    "           [--log-level \x7bcritical,error,warning,info,debug\x7d]\n").toList

/-- What stands behind that in the help. -/
def details : Text :=
  ("\n" ++
    "Serve the bfc compile API over HTTP\n" ++
    "\n" ++
    "options:\n" ++
    "  -h, --help            show this help message and exit\n" ++
    "  --host HOST           Bind address (default: 127.0.0.1)\n" ++
    "  --port PORT           Port to listen on (default: 8000)\n" ++
    "  --log-level \x7bcritical,error,warning,info,debug\x7d\n" ++
    "                        Log level for bfc and uvicorn (default: info)\n").toList

/-- The command. -/
def command : Command Serving where
  flags
  operand := none
  usage
  details

/-- What is written if there is no server. -/
def notInstalled : Text :=
  ("uvicorn is required to serve the compile API: " ++
    "import of uvicorn halted; None in sys.modules\n").toList

/-- Runs a command line. Gives the report, and how the service is to be started, if it is. -/
def run (installed : Bool) (line : List Text) : Report × Option Serving :=
  match command.read {} line with
  | .error fault => (⟨.exit 2, [], command.complaint fault⟩, none)
  | .ok .help => (⟨.exit 0, command.help, []⟩, none)
  | .ok (.set serving) =>
    if installed then
      match serving.logLevel with
      | .text _ => (⟨.exit 0, [], []⟩, some serving)
      | _ => (⟨.broken .noText, [], []⟩, none)
    else (⟨.exit 1, [], notInstalled⟩, none)

end Server

end TapeCompiler.CommandLine
