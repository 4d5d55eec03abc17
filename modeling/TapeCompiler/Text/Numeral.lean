import TapeCompiler.Text.Basic

/-!
# Numerals

Integers are written in decimal digits, a negative one behind a minus sign, and in most places only
if there are not too many digits. Escapes have hexadecimal digits.
-/

namespace TapeCompiler.Numeral

/-- The decimal digits of a natural number, without leading zeros. -/
def ofNat (n : Nat) : Text :=
  Nat.toDigits 10 n

/-- The numeral of an integer. -/
def ofInt : Int → Text
  | .ofNat n => ofNat n
  | .negSucc n => '-' :: ofNat (n + 1)

/-- The least number of more than 4300 digits, which is too large to be written. -/
def tooLarge : Nat :=
  Nat.pow 10 4300

/-- What is reported if a number is too large to be written. -/
def tooLargeMessage : Text :=
  ("Exceeds the limit (4300 digits) for integer string conversion; "
    ++ "use sys.set_int_max_str_digits() to increase the limit").toList

/-- The value of a hexadecimal digit. -/
def hexDigit? (c : Char) : Option Nat :=
  if '0' ≤ c ∧ c ≤ '9' then some (c.toNat - '0'.toNat)
  else if 'a' ≤ c ∧ c ≤ 'f' then some (c.toNat - 'a'.toNat + 10)
  else if 'A' ≤ c ∧ c ≤ 'F' then some (c.toNat - 'A'.toNat + 10)
  else none

end TapeCompiler.Numeral
