import TapeCompiler.Arguments.Reader
import TapeCompiler.CommandLine.Note
import TapeCompiler.CommandLine.Report
import TapeCompiler.Compile
import TapeCompiler.Text.LineBreak

/-!
# The command line of the compiler

The command reads a source from a file and compiles it, or prints its program. The result goes to
the standard output, to a file, or into a directory, under the name of the source with another
extension. Everything is checked before anything is written: first the command line, then the
options, then the source.

What is to be done depends on the files in two points only: what the source path leads to, and
whether the destination is a directory, which can be a failure of its own. With these given,
`Invocation.plan` decides the rest.

## Main definitions

* `Invocation` — what a command line asks for
* `Invocation.plan` — what is to be done
* `Compiler.run` — runs a command line on a tree of files
-/

namespace TapeCompiler.CommandLine

/-- What a command line asks for. -/
structure Invocation where
  /-- The path of the source. -/
  source : Text := []
  /-- The path of the destination; an empty one stands for the standard output. -/
  emit : Text := []
  /-- The options. -/
  options : Options.Unchecked := {}
  /-- Whether the program is printed and not compiled. -/
  printProgram : Bool := false
  /-- Whether notes are written. -/
  verbose : Bool := false

namespace Compiler

/-- The flags of the command. -/
def flags : List (Flag Invocation) :=
  [{ names := ["-h".toList, "--help".toList]
     effect := .help },
    { names := ["-o".toList, "--emit".toList]
      effect := .value Arguments.any fun v i =>
        { i with emit := match v with | .text t => t | _ => [] } },
    { names := ["--pre".toList]
      effect := .value Arguments.integer fun v i =>
        { i with options := { i.options with pre := v } } },
    { names := ["--post".toList]
      effect := .value Arguments.integer fun v i =>
        { i with options := { i.options with post := v } } },
    { names := ["--backend".toList]
      effect := .value (Arguments.choice (Target.all.map Target.name)) fun v i =>
        { i with options := { i.options with target := v } } },
    { names := ["--print-ir".toList]
      effect := .switch fun i => { i with printProgram := true } },
    { names := ["-v".toList, "--verbose".toList]
      effect := .switch fun i => { i with verbose := true } }]

/-- How the command is called. -/
def usage : Text :=
  ("usage: bfc [-h] [-o EMIT] [--pre PRE] [--post POST] [--backend \x7bc99\x7d]\n" ++
    "           [--print-ir] [-v]\n" ++
    "           source\n").toList

/-- What stands behind that in the help. -/
def details : Text :=
  ("\n" ++
    "Brainfuck (with raw inserts) compiler\n" ++
    "\n" ++
    "positional arguments:\n" ++
    "  source                Path to Brainfuck source file\n" ++
    "\n" ++
    "options:\n" ++
    "  -h, --help            show this help message and exit\n" ++
    "  -o EMIT, --emit EMIT  Destination file or directory for generated code\n" ++
    "                        (default: print to stdout)\n" ++
    "  --pre PRE             Cells before the initial pointer position (default: 0)\n" ++
    "  --post POST           Cells from the initial pointer position onward\n" ++
    "                        (default: 30000)\n" ++
    "  --backend \x7bc99\x7d       Target language (default: c99)\n" ++
    "  --print-ir            Print the parsed intermediate representation instead\n" ++
    "                        of compiling\n" ++
    "  -v, --verbose         Enable debug logging\n").toList

/-- The command. -/
def command : Command Invocation where
  flags
  operand := some ⟨"source".toList, fun t i => { i with source := t }⟩
  usage
  details

end Compiler

/-- What is to be done in the end. -/
inductive Action where
  /-- To end with an exit code. -/
  | stop (code : Nat)
  /-- To break off. -/
  | breakOff (cause : Break)
  /-- To write to the standard output. -/
  | print (t : Text)
  /-- To write a file. -/
  | write (path : Path) (t : Text)

/-- What is to be done: to write messages, and then a last thing. -/
structure Plan where
  /-- What is written to the standard error output. -/
  errors : Text
  /-- What is to be done then. -/
  action : Action

namespace Invocation

/-- The lines of notes, if notes are written. -/
def notes (i : Invocation) (main : Text) (ns : List Note) : Text :=
  if i.verbose then ns.flatMap (Note.line main) else []

/-- Where a result goes: to a file in the directory that is the destination, or to the destination
itself. -/
def destination (i : Invocation) (toDirectory : Bool) (extension : Text) : Path :=
  let path := Path.ofText i.emit
  if toDirectory then path.child ((Path.ofText i.source).stem ++ '.' :: extension) else path

/-- What is to be done with a result. -/
def deliver (i : Invocation) (toDirectory : Except Files.Fault Bool) (result extension : Text) :
    Action :=
  if i.emit = [] then .print result
  else
    -- Only here does it matter if the destination could not be looked at.
    match toDirectory with
    | .ok toDirectory => .write (i.destination toDirectory extension) result
    | .error fault => .breakOff (.file fault)

/-- What is to be done with a source. -/
def process (i : Invocation) (main : Text) (toDirectory : Except Files.Fault Bool)
    (options : Options) (source : Text) : Plan :=
  match parse source with
  | .error e =>
    ⟨i.notes main [.rejected e.offset] ++ "Syntax error: ".toList ++ e.message ++ ['\n'], .stop 1⟩
  | .ok program =>
    let parsed := Note.parsed program.length source.length
    if i.printProgram then
      ⟨i.notes main [parsed], i.deliver toDirectory (program.text ++ ['\n']) "bf".toList⟩
    else
      let compiling := Note.compiling options.target options.pre options.post
      match options.code? Indentation.standard program with
      | some code =>
        let cells := options.pre + options.post
        ⟨i.notes main [parsed, compiling, .generated options.target code.lines.length cells],
          i.deliver toDirectory code.text code.extension⟩
      | none => ⟨i.notes main [parsed, compiling], .breakOff .unwritable⟩

/-- What is to be done, given what the source path leads to, if to anything, and whether the
destination is a directory; `main` is the name under which the command line takes notes. -/
def plan (i : Invocation) (main : Text) (found : Option (Except Files.Fault ByteArray))
    (toDirectory : Except Files.Fault Bool) : Plan :=
  match i.options.check with
  | .error fault => ⟨"Invalid options: ".toList ++ fault.message ++ ['\n'], .stop 2⟩
  | .ok options =>
    match found with
    | none => ⟨"Source file not found: ".toList ++ i.source ++ ['\n'], .stop 1⟩
    | some (.error fault) => ⟨[], .breakOff (.file fault)⟩
    | some (.ok bytes) =>
      match Utf8.decode bytes with
      | .error fault => ⟨[], .breakOff (.undecodable fault)⟩
      | .ok source => i.process main toDirectory options source.unifyLineBreaks

end Invocation

namespace Compiler

/-- What the source path leads to, if to anything. -/
def source (tree : Tree) (path : Path) : Option (Except Files.Fault ByteArray) :=
  match tree.find path with
  | .ok found => found.map fun _ => tree.read path
  | .error fault => some (.error fault)

/-- Does what an invocation asks for. -/
def perform (main : Text) (i : Invocation) (tree : Tree) : Report × Tree :=
  let plan := i.plan main (source tree (.ofText i.source)) (tree.isDirectory (.ofText i.emit))
  match plan.action with
  | .stop code => (⟨.exit code, [], plan.errors⟩, tree)
  | .breakOff cause => (⟨.broken cause, [], plan.errors⟩, tree)
  | .print t => (⟨.exit 0, t, plan.errors⟩, tree)
  | .write path t =>
    match tree.write path (Utf8.encode t) with
    | .ok tree => (⟨.exit 0, [], plan.errors ++ i.notes main [.wrote path]⟩, tree)
    | .error fault => (⟨.broken (.file fault), [], plan.errors⟩, tree)

/-- Runs a command line on a tree of files. -/
def run (main : Text) (line : List Text) (tree : Tree) : Report × Tree :=
  match command.read {} line with
  | .error fault => (⟨.exit 2, [], command.complaint fault⟩, tree)
  | .ok .help => (⟨.exit 0, command.help, []⟩, tree)
  | .ok (.set i) => perform main i tree

end Compiler

end TapeCompiler.CommandLine
