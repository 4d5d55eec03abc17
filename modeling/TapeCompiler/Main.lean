import TapeCompiler.CommandLine.Compiler

/-!
# The compiler as a program

Looks at the files that a command line names, has `Invocation.plan` decide what is to be done, and
does it.
-/

namespace TapeCompiler.Main

open CommandLine

/-- Whether a path leads to a directory. -/
def leadsToDirectory (path : Path) : IO Bool := do
  ((← IO.currentDir) / String.ofList path.text).isDir

/-- What a path leads to, if to anything. -/
def lookUp (path : Path) : IO (Option (Except Files.Fault ByteArray)) := do
  let place := (← IO.currentDir) / String.ofList path.text
  if ! (← place.pathExists) then return none
  else if ← place.isDir then return some (.error ⟨.isDirectory, path⟩)
  else return some (.ok (← IO.FS.readBinFile place))

/-- Writes a text to the standard output. -/
def writeOutput (t : Text) : IO Unit := do
  (← IO.getStdout).putStr (String.ofList t)

/-- Writes a text to the standard error output. -/
def writeErrors (t : Text) : IO Unit := do
  (← IO.getStderr).putStr (String.ofList t)

/-- Does what an invocation asks for, and gives the exit code. -/
def perform (i : Invocation) : IO UInt32 := do
  let noteTaker := "bfc.cli".toList
  let found ← lookUp (.ofText i.source)
  let plan := i.plan noteTaker found (.ok (← leadsToDirectory (.ofText i.emit)))
  writeErrors plan.errors
  match plan.action with
  | .stop code => return code.toUInt32
  | .breakOff cause =>
    writeErrors (cause.message ++ ['\n'])
    return 1
  | .print t =>
    writeOutput t
    return 0
  | .write path t =>
    IO.FS.writeBinFile (String.ofList path.text) (Utf8.encode t)
    writeErrors (i.notes noteTaker [.wrote path])
    return 0

/-- Runs a command line, and gives the exit code. -/
def run (line : List Text) : IO UInt32 := do
  match Compiler.command.read {} line with
  | .error fault =>
    writeErrors (Compiler.command.complaint fault)
    return 2
  | .ok .help =>
    writeOutput Compiler.command.help
    return 0
  | .ok (.set i) => perform i

end TapeCompiler.Main

/-- Runs the compiler. -/
def main (line : List String) : IO UInt32 :=
  TapeCompiler.Main.run (line.map String.toList)
