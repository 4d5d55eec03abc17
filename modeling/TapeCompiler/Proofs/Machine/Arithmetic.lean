import Mathlib.Tactic.ByContra
import Mathlib.Tactic.SplitIfs
import TapeCompiler.Proofs.Machine.Listing

/-!
# Arithmetic at the types of C

In C an operation is done at a type, and an integer type with a sign holds a range of numbers only.
A result outside of it is an overflow, which C leaves undefined. In `*ptr += 1;` the cell is taken
as an `int`. A numeral is an `int` too, unless it is too great for it; then it has 64 bits. A minus
in front of a numeral is an operation of its own, at the type of the numeral. The two operands meet
at the wider type, and the byte that is stored is the result modulo 256.

So the type is told by the size of the operand alone. A sum and a product can be too great for an
`int`, while nothing can be too great for 64 bits. The least operand of all is such a case: without
its sign it is no `int` any more.

## Main definitions

* `C.IntegerType` — the types at which operations are done
* `C.literal`, `C.operate` — the value of a numeral with its type, and an operation at a type
* `C.assign` — the byte that an assignment stores
* `C.Overflows` — the operations with a result that does not fit
* `C.IsSafe` — the operands that never overflow

## Main results

* `C.literal_eq` — the types of operands with 32 bits
* `C.assign_eq_error_iff` — which assignments overflow
* `C.assign_eq_ok` — all others store the exact result modulo 256
* `C.forall_not_overflows_iff` — no operation with a safe operand overflows
-/

namespace TapeCompiler.C

/-- The integer types with a sign at which operations are done. -/
inductive IntegerType where
  /-- The type of 32 bits. -/
  | int
  /-- The type of 64 bits. -/
  | wide
deriving DecidableEq, Repr

/-- Why an operation is not defined. -/
inductive Undefined where
  /-- The result does not fit into its type. -/
  | overflow
  /-- The divisor is zero. -/
  | divisionByZero
deriving DecidableEq, Repr

namespace IntegerType

/-- The least positive number that is too great for a type. -/
def bound : IntegerType → Int
  | int => 2147483648
  | wide => 9223372036854775808

/-- A number is one of those that a type holds. -/
def Fits (t : IntegerType) (x : Int) : Prop :=
  -t.bound ≤ x ∧ x < t.bound

instance (t : IntegerType) (x : Int) : Decidable (t.Fits x) :=
  inferInstanceAs (Decidable (_ ∧ _))

/-- The result of an operation at a type, for the exact result. -/
def result (t : IntegerType) (x : Int) : Except Undefined Int :=
  if t.Fits x then .ok x else .error .overflow

/-- The wider of two types. -/
def wider : IntegerType → IntegerType → IntegerType
  | int, t => t
  | wide, _ => wide

/-- The type of a numeral without a sign. -/
def ofMagnitude (n : Nat) : IntegerType :=
  if int.Fits n then int else wide

theorem result_of_fits {t : IntegerType} {x : Int} (h : t.Fits x) : t.result x = .ok x :=
  if_pos h

theorem result_of_not_fits {t : IntegerType} {x : Int} (h : ¬ t.Fits x) :
    t.result x = .error .overflow :=
  if_neg h

theorem fits_of_natAbs_le {x : Int} {n : Nat} (hx : x.natAbs ≤ n) (hn : (n : Int) < 2147483648)
    (t : IntegerType) : t.Fits x := by
  cases t <;> simp only [Fits, bound] <;> omega

end IntegerType

/-- The type of a numeral that may have a sign, and its value. The sign is applied at the type of
the numeral behind it. -/
def literal (operand : Int) : Except Undefined (IntegerType × Int) := do
  let t := IntegerType.ofMagnitude operand.natAbs
  let magnitude ← t.result operand.natAbs
  let value ← if operand < 0 then t.result (-magnitude) else .ok magnitude
  return (t, value)

/-- An operation at a type. A remainder is defined only if the quotient is. -/
def operate (t : IntegerType) (op : Operator) (x y : Int) : Except Undefined Int :=
  match op with
  | .add => t.result (x + y)
  | .mul => t.result (x * y)
  | .div => if y = 0 then .error .divisionByZero else t.result (x.tdiv y)
  | .mod =>
    if y = 0 then .error .divisionByZero
    else do
      let _ ← t.result (x.tdiv y)
      t.result (x.tmod y)

/-- The byte that an assignment such as `*ptr += 1;` stores in a cell with a value. -/
def assign (op : Operator) (value : UInt8) (operand : Int) : Except Undefined UInt8 := do
  let (t, y) ← literal operand
  let x ← operate (IntegerType.int.wider t) op value.toNat y
  return UInt8.ofInt x

/-- The exact result does not fit into the type at which the operation is done. A sum can only be
too great. A product with the least operand is done at 64 bits. -/
def Overflows (op : Operator) (value : UInt8) (operand : Int) : Prop :=
  match op with
  | .add => 2147483647 < value.toNat + operand
  | .mul =>
    operand ≠ -2147483648 ∧
      (value.toNat * operand < -2147483648 ∨ 2147483647 < value.toNat * operand)
  | .div => False
  | .mod => False

instance (op : Operator) (value : UInt8) (operand : Int) : Decidable (Overflows op value operand) :=
  match op with
  | .add => inferInstanceAs (Decidable (_ < _))
  | .mul => inferInstanceAs (Decidable (_ ∧ _))
  | .div => inferInstanceAs (Decidable False)
  | .mod => inferInstanceAs (Decidable False)

/-! ### Operands -/

/-- The types of operands with 32 bits: all of them are `int` but the least one. -/
theorem literal_eq {operand : Int} (hoperand : -2147483648 ≤ operand ∧ operand ≤ 2147483647) :
    literal operand = .ok (if operand = -2147483648 then .wide else .int, operand) := by
  by_cases hleast : operand = -2147483648
  · rw [hleast]
    decide
  · -- Neither the numeral nor its negative is too great for its type.
    have hfits : IntegerType.int.Fits operand.natAbs := by
      simp only [IntegerType.Fits, IntegerType.bound]
      omega
    have htype : IntegerType.ofMagnitude operand.natAbs = .int := if_pos hfits
    rw [literal, htype, if_neg hleast, IntegerType.result_of_fits hfits]
    by_cases hneg : operand < 0
    · have hvalue : -(operand.natAbs : Int) = operand := by omega
      have hfits_neg : IntegerType.int.Fits operand := by
        simp only [IntegerType.Fits, IntegerType.bound]
        omega
      simp only [bind, Except.bind, if_pos hneg, hvalue, IntegerType.result_of_fits hfits_neg]
      rfl
    · have hvalue : (operand.natAbs : Int) = operand := by omega
      simp only [bind, Except.bind, if_neg hneg, hvalue]
      rfl

/-- The type at which an operation with an operand is done. -/
theorem assign_eq_operate {op : Operator} {value : UInt8} {operand : Int}
    (hoperand : -2147483648 ≤ operand ∧ operand ≤ 2147483647) :
    assign op value operand =
      (operate (if operand = -2147483648 then .wide else .int) op value.toNat operand).map
        UInt8.ofInt := by
  rw [assign, literal_eq hoperand]
  simp only [bind, Except.bind, IntegerType.wider]
  cases operate (if operand = -2147483648 then .wide else .int) op value.toNat operand <;> rfl

/-! ### Operations -/

/-- A quotient and a remainder of a byte are not greater than the byte. -/
theorem operate_of_divides {t : IntegerType} {op : Operator} (hop : op = .div ∨ op = .mod)
    {value : UInt8} {operand exact : Int}
    (hexact : Statement.result? op value.toNat operand = some exact) :
    operate t op value.toNat operand = .ok exact := by
  have hvalue : value.toNat < 256 := value.toNat_lt
  -- A number of the size of a byte fits into every type.
  have hquotient : t.Fits ((value.toNat : Int).tdiv operand) := by
    apply IntegerType.fits_of_natAbs_le (n := value.toNat) _ (by omega)
    exact Int.natAbs_tdiv_le_natAbs _ _
  have hremainder : t.Fits ((value.toNat : Int).tmod operand) := by
    apply IntegerType.fits_of_natAbs_le (n := value.toNat) _ (by omega)
    rw [Int.natAbs_tmod]
    exact Nat.mod_le _ _
  rcases hop with rfl | rfl
  · rw [Statement.result?] at hexact
    split_ifs at hexact with hzero
    cases hexact
    rw [operate, if_neg hzero, IntegerType.result_of_fits hquotient]
  · rw [Statement.result?] at hexact
    split_ifs at hexact with hzero
    cases hexact
    rw [operate, if_neg hzero, IntegerType.result_of_fits hquotient]
    exact IntegerType.result_of_fits hremainder

/-- Whether a sum fits into the type at which it is computed. -/
theorem fits_add_iff {value : UInt8} {operand : Int}
    (hoperand : -2147483648 ≤ operand ∧ operand ≤ 2147483647) :
    IntegerType.Fits (if operand = -2147483648 then .wide else .int) (value.toNat + operand) ↔
      ¬ Overflows .add value operand := by
  have hvalue : value.toNat < 256 := value.toNat_lt
  -- With the least operand the sum is an `int` again, although it is computed at 64 bits.
  split_ifs <;> simp only [IntegerType.Fits, IntegerType.bound, Overflows] <;> omega

/-- Whether a product fits into the type at which it is computed. -/
theorem fits_mul_iff {value : UInt8} {operand : Int} :
    IntegerType.Fits (if operand = -2147483648 then .wide else .int) (value.toNat * operand) ↔
      ¬ Overflows .mul value operand := by
  have hvalue : value.toNat < 256 := value.toNat_lt
  split_ifs with hleast
  · -- Even the greatest byte leads to a product of less than 40 bits.
    rw [hleast]
    simp only [IntegerType.Fits, IntegerType.bound, Overflows]
    omega
  · simp only [IntegerType.Fits, IntegerType.bound, Overflows]
    omega

section

variable {op : Operator} {value : UInt8} {operand : Int}
  (hoperand : -2147483648 ≤ operand ∧ operand ≤ 2147483647)
include hoperand

theorem operate_eq_ok {exact : Int}
    (hexact : Statement.result? op value.toNat operand = some exact)
    (hfits : ¬ Overflows op value operand) :
    operate (if operand = -2147483648 then .wide else .int) op value.toNat operand =
      .ok exact := by
  cases op with
  | add =>
    cases hexact
    exact IntegerType.result_of_fits ((fits_add_iff hoperand).mpr hfits)
  | mul =>
    cases hexact
    exact IntegerType.result_of_fits (fits_mul_iff.mpr hfits)
  | div => exact operate_of_divides (.inl rfl) hexact
  | mod => exact operate_of_divides (.inr rfl) hexact

theorem operate_eq_error (hover : Overflows op value operand) :
    operate (if operand = -2147483648 then .wide else .int) op value.toNat operand =
      .error .overflow := by
  cases op with
  | add =>
    apply IntegerType.result_of_not_fits
    exact fun hfits => (fits_add_iff hoperand).mp hfits hover
  | mul =>
    apply IntegerType.result_of_not_fits
    exact fun hfits => fits_mul_iff.mp hfits hover
  | div => exact hover.elim
  | mod => exact hover.elim

/-- An assignment that does not overflow stores the exact result modulo 256. -/
theorem assign_eq_ok {exact : Int}
    (hexact : Statement.result? op value.toNat operand = some exact)
    (hfits : ¬ Overflows op value operand) :
    assign op value operand = .ok (UInt8.ofInt exact) := by
  rw [assign_eq_operate hoperand, operate_eq_ok hoperand hexact hfits]
  rfl

theorem assign_eq_error (hover : Overflows op value operand) :
    assign op value operand = .error .overflow := by
  rw [assign_eq_operate hoperand, operate_eq_error hoperand hover]
  rfl

/-- An assignment with an exact result overflows only if that does not fit. -/
theorem assign_eq_error_iff {exact : Int}
    (hexact : Statement.result? op value.toNat operand = some exact) :
    assign op value operand = .error .overflow ↔ Overflows op value operand := by
  constructor
  · intro herror
    -- If the result fitted, it would have been stored.
    by_contra hfits
    rw [assign_eq_ok hoperand hexact hfits] at herror
    cases herror
  · exact assign_eq_error hoperand

end

/-! ### Operands that never overflow -/

/-- An operand with which no operation on a byte overflows. -/
def IsSafe (op : Operator) (operand : Int) : Prop :=
  match op with
  | .add => operand ≤ 2147483392
  | .mul => operand = -2147483648 ∨ operand.natAbs ≤ 8421504
  | .div => True
  | .mod => True

instance (op : Operator) (operand : Int) : Decidable (IsSafe op operand) :=
  match op with
  | .add => inferInstanceAs (Decidable (_ ≤ _))
  | .mul => inferInstanceAs (Decidable (_ ∨ _))
  | .div => inferInstanceAs (Decidable True)
  | .mod => inferInstanceAs (Decidable True)

/-- The operands that never overflow are told by the greatest byte. -/
theorem forall_not_overflows_iff {op : Operator} {operand : Int} :
    (∀ value, ¬ Overflows op value operand) ↔ IsSafe op operand := by
  constructor
  · intro h
    have hgreatest : (255 : UInt8).toNat = 255 := rfl
    have hfits := h 255
    cases op <;> simp only [Overflows, IsSafe, hgreatest] at hfits ⊢ <;> omega
  · intro hsafe value hover
    have hvalue : value.toNat < 256 := value.toNat_lt
    cases op with
    | add =>
      simp only [Overflows, IsSafe] at hsafe hover
      omega
    | mul =>
      obtain ⟨hleast, hproduct⟩ := hover
      have hsize : operand.natAbs ≤ 8421504 := hsafe.resolve_left hleast
      -- A product of a byte and such an operand fits into an `int`, whatever the sign is.
      have hbound : ((value.toNat : Int) * operand).natAbs ≤ 255 * 8421504 := by
        rw [Int.natAbs_mul, Int.natAbs_natCast]
        exact Nat.mul_le_mul (by omega) hsize
      omega
    | div => exact hover
    | mod => exact hover

example : assign .add 1 2147483647 = .error .overflow := by decide

example : assign .mod 200 (-7) = .ok 4 := by decide

end TapeCompiler.C
