import TapeCompiler.Json.Basic
import TapeCompiler.Program.Basic

/-!
# Instructions from unchecked values

Instructions that come from outside name their operator by its sign and their numbers by JSON
values. An operator has to be one of the four, a number an integer of 32 bits with a sign.

## Main definitions

* `Instruction.move?`, `Instruction.cell?` — instructions from unchecked values
* `Instruction.Fault`, `Instruction.Fault.wording` — why a value was refused, and its wording
-/

namespace TapeCompiler.Instruction

/-- Why an instruction was refused. -/
inductive Fault where
  /-- There is no operator with this sign. -/
  | noOperator (value : Json)
  /-- The number of this name is not an integer. -/
  | notInteger (name : Text) (value : Json)
  /-- The number of this name does not fit in 32 bits with a sign. -/
  | outOfRange (name : Text) (value : Int)

/-- The wording of a fault, if the value in it can be shown. -/
def Fault.wording : Fault → Except Json.Unshown Text
  | noOperator value => value.described.map (· ++ " is not a valid Op".toList)
  | notInteger name value =>
    value.described.map fun t => name ++ " must be an integer, got ".toList ++ t
  | outOfRange name value =>
    (Json.int value).described.map fun t => name ++ " out of 32-bit signed range: ".toList ++ t

/-- The number of the given name as an integer of 32 bits. -/
def int32 (name : Text) : Json → Except Fault Int32
  | .int n =>
    if h : Int32.minValue.toInt ≤ n ∧ n ≤ Int32.maxValue.toInt then
      .ok (Int32.ofIntLE n h.1 h.2)
    else .error (.outOfRange name n)
  | value => .error (.notInteger name value)

/-- The operator with a given sign. -/
def operator (value : Json) : Except Fault Operator :=
  match value with
  | .text sign =>
    match Operator.ofSymbol? sign with
    | some op => .ok op
    | none => .error (.noOperator value)
  | _ => .error (.noOperator value)

/-- A move of the pointer by an unchecked offset. -/
def move? (offset : Json) : Except Fault Instruction :=
  (int32 "offset".toList offset).map move

/-- An operation on the active cell. The operator is checked before the operand. -/
def cell? (op operand : Json) : Except Fault Instruction := do
  let op ← operator op
  let operand ← int32 "operand".toList operand
  return cell op operand

end TapeCompiler.Instruction
