import TapeCompiler.Text.Numeral

/-!
# Decimal fractions

A decimal fraction is a signed natural number of digits scaled by a power of ten. It is written
with its significant digits and at least one digit behind the point, positionally as long as its
leading digit stands for a power of ten from -4 to 15, and with an exponent otherwise.

## Main definitions

* `Decimal` — a decimal fraction
* `Decimal.toText` — its written form
-/

namespace TapeCompiler

/-- The decimal fraction `± digits * 10 ^ exponent`. -/
structure Decimal where
  /-- Whether there is a minus sign, which zero can have too. -/
  negative : Bool
  /-- The digits, read as one natural number. -/
  digits : Nat
  /-- The power of ten that scales the digits. -/
  exponent : Int
deriving DecidableEq, Repr

namespace Decimal

/-- Moves the zeros at the end of `digits` into the exponent. -/
def strip (digits : Nat) (exponent : Int) : Nat × Int :=
  if digits = 0 then (0, 0)
  else if digits % 10 = 0 then strip (digits / 10) (exponent + 1)
  else (digits, exponent)

/-- The numeral `digits`, its leading digit standing for the power of ten `lead`, written out. -/
def positional (digits : Text) (lead : Int) : Text :=
  if lead < 0 then
    '0' :: '.' :: List.replicate (-lead - 1).toNat '0' ++ digits
  else
    let before := (lead + 1).toNat
    let fraction := digits.drop before
    digits.take before ++ List.replicate (before - digits.length) '0' ++
      '.' :: (if fraction.isEmpty then ['0'] else fraction)

/-- The numeral `digits` with its leading digit in front of the point and the power of ten `lead`
as an exponent of at least two digits. -/
def scientific (digits : Text) (lead : Int) : Text :=
  let power := Numeral.ofNat lead.natAbs
  let fraction := digits.drop 1
  digits.take 1 ++ (if fraction.isEmpty then [] else '.' :: fraction) ++
    'e' :: (if lead < 0 then '-' else '+') :: (List.replicate (2 - power.length) '0' ++ power)

/-- The written form of a decimal fraction. -/
def toText (d : Decimal) : Text :=
  let (digits, exponent) := strip d.digits d.exponent
  let numeral := Numeral.ofNat digits
  let lead := exponent + numeral.length - 1
  (if d.negative then ['-'] else []) ++
    if -4 ≤ lead ∧ lead < 16 then positional numeral lead else scientific numeral lead

end Decimal

end TapeCompiler
