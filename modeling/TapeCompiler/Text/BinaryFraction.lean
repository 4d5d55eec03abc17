import TapeCompiler.Text.Decimal

/-!
# Binary fractions of 64 bits

A number that is written with a point or an exponent is rounded to a binary floating point number of
64 bits, and is shown with the fewest decimal digits that are rounded to the same number. Of several
such decimal fractions it is the nearest, and of two that are equally near the one that ends in an
even digit.

All comparisons are made with natural numbers, on the scale of `2 ^ -1075`.

## Main definitions

* `BinaryFraction` — the size of a binary floating point number
* `Decimal.nearest?` — the binary floating point number nearest to a decimal fraction
* `BinaryFraction.shortest` — its shortest decimal form
* `Decimal.rounded?` — the decimal form of a number after rounding
* `Decimal.wholePart` — the value of a number as an integer, after rounding
-/

namespace TapeCompiler

/-- The number `mantissa * 2 ^ power / 2 ^ 1075`, where the mantissa has 53 bits, or fewer if the
power is the least one. -/
structure BinaryFraction where
  /-- The bits that count. -/
  mantissa : Nat
  /-- The power of two that scales them, at least one. -/
  power : Nat
deriving DecidableEq, Repr

namespace BinaryFraction

/-- The denominator on which all binary fractions are whole numbers. -/
def unit : Nat := 1 <<< 1075

/-- A binary fraction as a multiple of the fraction with the denominator `unit`. -/
def scaled (x : BinaryFraction) : Nat :=
  x.mantissa <<< x.power

/-- The distance to the end of the interval above that is rounded to a binary fraction. -/
def above (x : BinaryFraction) : Nat :=
  1 <<< (x.power - 1)

/-- The distance to the end of the interval below. It is half as long where the neighbour below has
a smaller power. -/
def below (x : BinaryFraction) : Nat :=
  if x.mantissa = 1 <<< 52 ∧ 1 < x.power then 1 <<< (x.power - 2) else 1 <<< (x.power - 1)

/-- A power of ten. -/
def tenTo : Nat → Nat
  | 0 => 1
  | n + 1 => 10 * tenTo n

/-- The least power of ten above a binary fraction that is not zero. -/
def magnitude (x : BinaryFraction) : Int :=
  if x.scaled < unit then 1 - ((Numeral.ofNat ((unit - 1) / x.scaled)).length : Int)
  else (Numeral.ofNat (x.scaled / unit)).length

/-- The multiple of the power of ten with the given exponent that is rounded to a binary fraction,
if there is one. Of the two neighbours on this grid the nearer one is taken, and at equal distances
the even one. -/
def onGrid? (x : BinaryFraction) (exponent : Int) : Option Nat :=
  let grid := unit * tenTo exponent.toNat
  let finer := tenTo (-exponent).toNat
  let value := x.scaled * finer
  let low := (x.scaled - x.below) * finer
  let high := (x.scaled + x.above) * finer
  let inside (n : Nat) : Bool :=
    if x.mantissa % 2 = 0 then low ≤ n * grid && n * grid ≤ high
    else low < n * grid && n * grid < high
  let n := value / grid
  let upper := (2 * n + 1) * grid < 2 * value || ((2 * n + 1) * grid = 2 * value && n % 2 = 1)
  match inside n, inside (n + 1) with
  | true, true => some (if upper then n + 1 else n)
  | true, false => some n
  | false, true => some (n + 1)
  | false, false => none

/-- The shortest decimal form of a binary fraction. Seventeen digits are always enough. -/
def shortest (x : BinaryFraction) (negative : Bool) : Decimal :=
  if x.mantissa = 0 then ⟨negative, 0, 0⟩
  else
    let found := (List.range 17).findSome? fun (n : Nat) =>
      let exponent := x.magnitude - ((n : Int) + 1)
      (x.onGrid? exponent).map fun digits => Decimal.mk negative digits exponent
    found.getD ⟨negative, x.scaled / unit, 0⟩

end BinaryFraction

namespace Decimal

/-- The binary fraction nearest to the size of a decimal fraction, if it does not lie beyond all of
them. -/
def nearest? (d : Decimal) : Option BinaryFraction :=
  let lead := d.exponent + (Numeral.ofNat d.digits).length
  if d.digits = 0 ∨ lead < -330 then some ⟨0, 1⟩
  else if 310 < lead then none
  else
    let bits := (Float.ofScientific d.digits (d.exponent < 0) d.exponent.natAbs).toBits
    let biased := ((bits >>> 52) &&& 0x7FF).toNat
    let fraction := (bits &&& 0xFFFFFFFFFFFFF).toNat
    if biased = 0x7FF then none
    else if biased = 0 then some ⟨fraction, 1⟩
    else some ⟨(1 <<< 52) + fraction, biased⟩

/-- The decimal form of a number after rounding, if there is a binary fraction near it. -/
def rounded? (d : Decimal) : Option Decimal :=
  d.nearest?.map fun x => x.shortest d.negative

/-- What is known of a number as an integer. -/
inductive WholePart where
  /-- The number has a fractional part. -/
  | fractional
  /-- The number is whole and does not fit in 64 bits with a sign. -/
  | tooLarge
  /-- The number is this integer. -/
  | whole (n : Int)
deriving DecidableEq, Repr

/-- The value of a decimal fraction as an integer, after rounding to a binary fraction. -/
def wholePart (d : Decimal) : WholePart :=
  match d.nearest? with
  | none => .tooLarge
  | some x =>
    let n := x.scaled / BinaryFraction.unit
    if n * BinaryFraction.unit ≠ x.scaled then .fractional
    else if 1 <<< 63 ≤ n then .tooLarge
    else .whole (if d.negative then -(n : Int) else n)

end Decimal

end TapeCompiler
