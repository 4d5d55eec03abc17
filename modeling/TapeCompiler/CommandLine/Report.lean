import TapeCompiler.Code.Tape
import TapeCompiler.Files.Tree
import TapeCompiler.Text.Utf8

/-!
# Reports of command lines

A command leaves a report: how it ended, and what it wrote to the standard output and to the
standard error output. It ends with an exit code, or it breaks off.

## Main definitions

* `CommandLine.Report`, `CommandLine.Ending`, `CommandLine.Break`
-/

namespace TapeCompiler.CommandLine

/-- Why a command breaks off. -/
inductive Break where
  /-- A file cannot be used. -/
  | file (fault : Files.Fault)
  /-- A file is not UTF-8. -/
  | undecodable (fault : Utf8.Fault)
  /-- A setting that is to be a text is an empty list. -/
  | noText
  /-- The number of cells has too many digits to be written. -/
  | unwritable

/-- The wording for a command that breaks off. -/
def Break.message : Break → Text
  | file fault => fault.message
  | undecodable fault => fault.message
  | noText => "'list' object has no attribute 'upper'".toList
  | unwritable => Tape.Fault.unwritable.message

/-- How a command ends. -/
inductive Ending where
  /-- With an exit code. -/
  | exit (code : Nat)
  /-- It breaks off. -/
  | broken (cause : Break)

/-- The report of a command. -/
structure Report where
  /-- How the command ended. -/
  ending : Ending
  /-- What was written to the standard output. -/
  output : Text
  /-- What was written to the standard error output. -/
  errors : Text

end TapeCompiler.CommandLine
