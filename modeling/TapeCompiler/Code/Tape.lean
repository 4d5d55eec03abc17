import TapeCompiler.Json.Basic

/-!
# Tape sizes

The tape has a number of cells before the initial place of the pointer, and a number of cells from
there on. Both come from outside and have to be integers that are not negative. There is no limit to
them, but a number of more than 4300 digits is not written.

## Main definitions

* `Tape.size` — the size that an unchecked value stands for
* `Tape.isWritable` — whether a number of cells can be written
* `Tape.Fault`, `Tape.Fault.message` — why a value was refused, and what is reported
-/

namespace TapeCompiler.Tape

/-- Why a size was refused. -/
inductive Fault where
  /-- The size of this name is not an integer. -/
  | notInteger (name : Text) (value : Json)
  /-- The size of this name is negative. -/
  | negative (name : Text) (value : Int)
  /-- The number of all cells has too many digits. -/
  | unwritable

/-- The wording of a fault, if the value in it can be shown. -/
def Fault.wording : Fault → Except Json.Unshown Text
  | notInteger name value =>
    value.described.map fun t => name ++ " must be an integer, got ".toList ++ t
  | negative name value =>
    (Json.int value).described.map fun t => name ++ " must be non-negative, got ".toList ++ t
  | unwritable => .error .digits

/-- What is reported of a fault. -/
def Fault.message (f : Fault) : Text :=
  Json.reported f.wording

/-- The least number that is too large to be written. -/
def tooLarge : Nat :=
  Numeral.tooLarge

/-- Whether a number of cells can be written. -/
def isWritable (cells : Nat) : Bool :=
  cells < tooLarge

/-- The size of the given name that a value stands for. -/
def size (name : Text) : Json → Except Fault Nat
  | .int (.ofNat n) => .ok n
  | .int (.negSucc n) => .error (.negative name (.negSucc n))
  | value => .error (.notInteger name value)

/-- The number of cells before the initial place of the pointer. -/
def pre (value : Json) : Except Fault Nat :=
  size "pre".toList value

/-- The number of cells from the initial place of the pointer on. -/
def post (value : Json) : Except Fault Nat :=
  size "post".toList value

end TapeCompiler.Tape
