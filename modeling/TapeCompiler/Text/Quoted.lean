import TapeCompiler.Text.Basic
import TapeCompiler.Text.Printable

/-!
# Quoted texts

Messages show a text between quotes, on one line and in printable characters only. The quotes are
single ones, or double ones around a text that holds a single quote and no double quote.

## Main definitions

* `Quoted.escape` — the written form of one character
* `Quoted.ofText` — the written form of a text, with its quotes
-/

namespace TapeCompiler.Quoted

/-- The quote that goes around a text. -/
def quoteFor (t : Text) : Char :=
  if '\'' ∈ t ∧ '"' ∉ t then '"' else '\''

/-- The hexadecimal numeral of a code point in lower case, filled up with zeros to a width. -/
def hexadecimal (width code : Nat) : Text :=
  let digits := Nat.toDigits 16 code
  List.replicate (width - digits.length) '0' ++ digits

/-- The shortest numbered escape that can hold a code point. -/
def numbered (code : Nat) : Text :=
  if code < 0x100 then '\\' :: 'x' :: hexadecimal 2 code
  else if code < 0x10000 then '\\' :: 'u' :: hexadecimal 4 code
  else '\\' :: 'U' :: hexadecimal 8 code

/-- The written form of a character between two quotes of the given kind. -/
def escape (quote c : Char) : Text :=
  if c = quote ∨ c = '\\' then ['\\', c]
  else if c = '\n' then ['\\', 'n']
  else if c = '\r' then ['\\', 'r']
  else if c = '\t' then ['\\', 't']
  else if isPrintable c then [c]
  else numbered c.toNat

/-- The written form of a text, with its quotes. -/
def ofText (t : Text) : Text :=
  quoteFor t :: t.flatMap (escape (quoteFor t)) ++ [quoteFor t]

end TapeCompiler.Quoted
