import TapeCompiler.Options
import TapeCompiler.Program.Printer
import TapeCompiler.Source.Parser

/-!
# Compiling and formatting sources

A compiler holds settings. They start as checked options, and may be changed later without a check,
so compiling looks at them again, but only after the source was read: a source that is no program
is reported first, whatever the settings are.

## Main definitions

* `Settings` — what a compiler holds
* `Settings.compile` — the code of a source
* `Options.code` — the code of a program under checked options with lines that are indented by a
  text, in which nothing is refused
* `Options.code?` — the same, if the number of cells can be written
* `format` — a source without its gaps
-/

namespace TapeCompiler

/-- What a compiler holds: options that may have been changed without a check. -/
structure Settings where
  /-- The number of cells before the initial place of the pointer. -/
  pre : Json
  /-- The number of cells from the initial place of the pointer on. -/
  post : Json
  /-- The target language, or a value that was put in its place. -/
  target : Target ⊕ Json
  /-- What indents a line by one level, if it is a text. -/
  indent : Json

/-- The settings that stand for checked options with an indentation. -/
def Options.settings (o : Options) (indent : Json) : Settings where
  pre := .int o.pre
  post := .int o.post
  target := .inl o.target
  indent

/-- The settings that stand for options, if these are in order. -/
def Options.Unchecked.settings (u : Options.Unchecked) : Except Options.Fault Settings :=
  u.check.map fun o => o.settings u.indent

/-- The code of a program under checked options, with lines that are indented by a text. -/
def Options.code (o : Options) (indent : Text) (program : Program) : Code :=
  (o.target.backend (.ofText indent)).sureCode program o.pre o.post

/-- The code of a program under checked options, unless the number of cells cannot be written. -/
def Options.code? (o : Options) (indent : Text) (program : Program) : Option Code :=
  if Tape.isWritable (o.pre + o.post) then some (o.code indent program) else none

/-- A single change of settings. -/
inductive Settings.Change where
  /-- Another number of cells before the initial place of the pointer. -/
  | pre (value : Json)
  /-- Another number of cells from the initial place of the pointer on. -/
  | post (value : Json)
  /-- Another target language. -/
  | choose (target : Target)
  /-- Any other value in the place of the target language. -/
  | target (value : Json)
  /-- Another indentation. -/
  | indent (value : Json)

/-- Why a source was not compiled. -/
inductive Compile.Fault where
  /-- The source is no program. -/
  | syntaxError (e : SyntaxError)
  /-- There is a value in the place of the target language. -/
  | noTarget (value : Json)
  /-- A size of the tape is no size. -/
  | tape (fault : Tape.Fault)
  /-- The indentation cannot be used. -/
  | indentation (fault : Indentation.Fault)

/-- Why a source was not compiled, if no code was generated for its program. -/
def Compile.Fault.ofGeneration : Generation.Fault Indentation.Fault → Compile.Fault
  | .tape fault => .tape fault
  | .refused fault => .indentation fault

namespace Settings

/-- The settings after a change. -/
def change (s : Settings) : Change → Settings
  | .pre value => { s with pre := value }
  | .post value => { s with post := value }
  | .choose target => { s with target := .inl target }
  | .target value => { s with target := .inr value }
  | .indent value => { s with indent := value }

/-- The code of a program. -/
def compileProgram (s : Settings) (program : Program) : Except Compile.Fault Code :=
  match s.target with
  | .inr value => .error (.noTarget value)
  | .inl target =>
    ((target.backend (.ofValue s.indent)).generate program s.pre s.post).mapError .ofGeneration

/-- The code of a source. -/
def compile (s : Settings) (source : Text) : Except Compile.Fault Code := do
  let program ← (parse source).mapError .syntaxError
  s.compileProgram program

end Settings

/-- The wording of the fault that there is a value in the place of the target language. -/
def Compile.noTargetMessage (value : Json) : Text :=
  '\'' :: value.kind ++ "' object has no attribute 'value'".toList

/-- The printed form of the program that a source holds. -/
def format (source : Text) : Except SyntaxError Text :=
  (parse source).map Program.text

end TapeCompiler
