import TapeCompiler.Code.Emission
import TapeCompiler.Text.Numeral

/-!
# Backends from templates

A backend can be given by templates: for each part of a program the lines that it becomes, with
placeholders for its numbers and texts. A part without a template is refused.

## Main definitions

* `Template` — lines with placeholders
* `Templates` — a template for each part of a program, as far as given
* `Templates.backend` — the backend
-/

namespace TapeCompiler

/-- Lines in which placeholders stand for what is only known later. -/
abbrev Template := List Text

/-- Puts texts in the place of placeholders, one placeholder after another. -/
def Template.fill (values : List (Text × Text)) (lines : Template) : List Text :=
  lines.map fun line => values.foldl (fun t (name, value) => Text.replace name value t) line

/-- The part of a program for which there is no template. -/
inductive Template.Part where
  /-- The lines before a program. -/
  | opening
  /-- The lines behind a program. -/
  | ending
  /-- A move of the pointer. -/
  | move
  /-- An operation on the active cell. -/
  | cell
  /-- Output. -/
  | output
  /-- Input. -/
  | input
  /-- An insert. -/
  | insert
  /-- The beginning of a loop. -/
  | loopOpening
  /-- The end of a loop. -/
  | loopEnding
deriving DecidableEq, Repr

/-- Why a part of a program was not written. -/
inductive Template.Fault where
  /-- There is no template for this part. -/
  | missing (part : Template.Part)
  /-- The indentation cannot be used. -/
  | indentation (fault : Indentation.Fault)
deriving DecidableEq, Repr

/-- A template for each part of a program, as far as given. -/
structure Templates where
  /-- What indents a line by one level, if it is a text. -/
  indent : Json
  /-- The depth of the statements outside all loops. -/
  bodyDepth : Int
  /-- The lines before a program, with the two sizes of the tape. -/
  opening : Option Template
  /-- The lines behind a program. -/
  ending : Option Template
  /-- The lines of a move, with its offset. -/
  move : Option Template
  /-- The lines of an operation, with its sign and its operand. -/
  cell : Option Template
  /-- The lines of output. -/
  output : Option Template
  /-- The lines of input. -/
  input : Option Template
  /-- The lines of an insert, with its text. -/
  insert : Option Template
  /-- The lines at the beginning of a loop. -/
  loopOpening : Option Template
  /-- The lines at the end of a loop. -/
  loopEnding : Option Template

namespace Templates

/-- The lines of a template, or the part for which there is none. -/
def lines (part : Template.Part) (values : List (Text × Text)) :
    Option Template → Except Template.Fault (List Text)
  | some template => .ok (template.fill values)
  | none => .error (.missing part)

/-- The placeholder with a name: the name in braces. -/
def placeholder (name : Text) : Text :=
  '\x7b' :: name ++ ['\x7d']

/-- The lines of an instruction. -/
def instruction (t : Templates) : Instruction → Except Template.Fault (List Text)
  | .move offset =>
    lines .move [(placeholder ['n'], Numeral.ofInt offset.toInt)] t.move
  | .cell op operand =>
    lines .cell [(placeholder "op".toList, [op.symbol]),
      (placeholder ['n'], Numeral.ofInt operand.toInt)] t.cell
  | .output => lines .output [] t.output
  | .input => lines .input [] t.input
  | .insert text => lines .insert [(placeholder "text".toList, text)] t.insert

/-- The backend that translates by templates. -/
def backend (t : Templates) : Backend Instruction Template.Fault where
  extension := []
  indentation := (Indentation.limited t.indent).mapFault .indentation
  writesCells := false
  bodyDepth := t.bodyDepth
  opening pre post :=
    lines .opening [(placeholder "pre".toList, Numeral.ofNat pre),
      (placeholder "post".toList, Numeral.ofNat post)] t.opening
  ending := lines .ending [] t.ending
  leaf := t.instruction
  loopOpening := lines .loopOpening [] t.loopOpening
  loopEnding := lines .loopEnding [] t.loopEnding

end Templates

end TapeCompiler
