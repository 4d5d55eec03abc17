import TapeCompiler.Code.Target

/-!
# Options

Options say how large the tape is, where the pointer starts, and in which language code is written.
They are checked as a whole: the two sizes one after the other, then that the tape has a cell, then
the language. With them comes an indentation, which is not checked.

## Main definitions

* `Options` — checked options
* `Options.Unchecked` — options as they are given, with defaults for what is not given
* `Options.Unchecked.check` — the options, or why they were refused
-/

namespace TapeCompiler

/-- The number of cells from the initial place of the pointer on, if none is given. -/
def defaultLength : Nat := 30000

/-- Options under which every program can be compiled. -/
structure Options where
  /-- The number of cells before the initial place of the pointer. -/
  pre : Nat := 0
  /-- The number of cells from the initial place of the pointer on. -/
  post : Nat := defaultLength
  /-- The target language. -/
  target : Target := .c99
  /-- The tape has a cell. -/
  pos_cells : 0 < pre + post := by decide

namespace Options

/-- Options that were not checked yet. -/
structure Unchecked where
  /-- The number of cells before the initial place of the pointer. -/
  pre : Json := .int 0
  /-- The number of cells from the initial place of the pointer on. -/
  post : Json := .int defaultLength
  /-- The name of the target language. -/
  target : Json := .text Target.c99.name
  /-- What indents a line by one level, if it is a text. -/
  indent : Json := .text Indentation.standard

/-- Why options were refused. -/
inductive Fault where
  /-- A size of the tape is no size. -/
  | tape (fault : Tape.Fault)
  /-- The tape has no cell. -/
  | noCells
  /-- There is no such target language. -/
  | noTarget (value : Json)

/-- The wording of a fault, if the value in it can be shown. -/
def Fault.wording : Fault → Except Json.Unshown Text
  | tape fault => fault.wording
  | noCells => .ok "tape must have at least one cell (pre + post > 0)".toList
  | noTarget value => value.shown.map fun t =>
    "Unknown backend '".toList ++ t ++ "' (choose from: ".toList ++ Target.names ++ [')']

/-- What is reported of a fault. -/
def Fault.message (f : Fault) : Text :=
  Json.reported f.wording

/-- The options, or the first reason to refuse them. -/
def Unchecked.check (u : Unchecked) : Except Fault Options := do
  let pre ← (Tape.pre u.pre).mapError .tape
  let post ← (Tape.post u.post).mapError .tape
  if pos_cells : 0 < pre + post then
    match Target.ofValue? u.target with
    | some target => return { pre, post, target, pos_cells }
    | none => throw (.noTarget u.target)
  else throw .noCells

end Options

end TapeCompiler
