import TapeCompiler.Text.DecimalDigit
import TapeCompiler.Text.WhiteSpace

/-!
# Reading integers

Two notations are read. A literal on a command line has an optional sign and decimal digits of any
script, with single underscores between them.

The canonical form of a literal in a request is a numeral without leading zeros, which may have a
minus sign. Any other literal is brought into this form step by step: a plus sign, a point with
zeros behind it, and the zeros at its beginning are taken away, and then the underscores, which may
not stand side by side. The zeros at the beginning may be mixed with any underscores, and nothing is
asked of what stands behind them, so that a minus sign may also follow there.

In both notations, white space around the literal does not count, and the number of digits is
limited.

## Main definitions

* `IntegerLiteral.read?` — the value of a literal on a command line
* `IntegerLiteral.readWhole` — the value of a literal in a request
-/

namespace TapeCompiler.IntegerLiteral

/-- Reads on behind a digit, with the value read so far. -/
def moreDigits (digit : Char → Option Nat) (value : Nat) : Text → Option Nat
  | [] => some value
  | '_' :: c :: rest => (digit c).bind fun d => moreDigits digit (10 * value + d) rest
  | c :: rest => (digit c).bind fun d => moreDigits digit (10 * value + d) rest

/-- The value of a nonempty row of digits, single underscores between them allowed. -/
def digits? (digit : Char → Option Nat) : Text → Option Nat
  | [] => none
  | c :: rest => (digit c).bind fun d => moreDigits digit d rest

/-- The greatest number of digits. -/
def maxLength : Nat := 4300

/-- The value of a literal on a command line. -/
def read? (t : Text) : Option Int :=
  if maxLength < t.countP fun c => (DecimalDigit.value? c).isSome then none
  else
    match t.trim with
    | '-' :: rest => (digits? DecimalDigit.value? rest).map fun n => -(n : Int)
    | '+' :: rest => (digits? DecimalDigit.value? rest).map fun n => (n : Int)
    | rest => (digits? DecimalDigit.value? rest).map fun n => (n : Int)

/-! ### Literals in requests -/

/-- Why a text is not the literal of an integer in a request. -/
inductive Fault where
  /-- The text is not a numeral. -/
  | notNumeral
  /-- The numeral has too many digits. -/
  | tooLong
deriving DecidableEq, Repr

/-- Takes away a point with nothing but zeros behind it, of which there is at least one. -/
def dropZeroFraction (t : Text) : Text :=
  match t.dropWhile (· ≠ '.') with
  | '.' :: fraction =>
    if fraction ≠ [] ∧ fraction.all (· = '0') then t.takeWhile (· ≠ '.') else t
  | _ => t

/-- Takes away the zeros at the beginning of a text, with the underscores among and behind them. If
nothing else is there, the last character is left. A text without zeros at its beginning has to
begin with another digit. -/
def dropZeros? : Text → Option Text
  | '0' :: rest =>
    match rest.dropWhile fun c => c = '0' || c = '_' with
    | [] => some [rest.getLastD '0']
    | t => some t
  | c :: rest => if c.isDigit then some (c :: rest) else none
  | [] => none

/-- Whether no two underscores stand side by side. -/
def areApart : Text → Bool
  | '_' :: '_' :: _ => false
  | _ :: rest => areApart rest
  | [] => true

/-- Takes away the underscores, which have to stand apart and not at the ends. -/
def dropUnderscores? (t : Text) : Option Text :=
  if t.head? = some '_' ∨ t.getLast? = some '_' ∨ areApart t = false then none
  else some (t.filter (· ≠ '_'))

/-- The canonical form of the text of a literal. -/
def canonical? (t : Text) : Option Text :=
  match dropZeroFraction t with
  | '-' :: rest => do dropUnderscores? ('-' :: (← dropZeros? rest))
  | '+' :: rest => do dropUnderscores? (← dropZeros? rest)
  | rest => do dropUnderscores? (← dropZeros? rest)

/-- The value of a numeral without leading zeros. Too many digits are told before anything that
follows them. -/
def natural (t : Text) : Except Fault Nat :=
  if t = ['0'] then .ok 0
  else if t.head? = some '0' then .error .notNumeral
  else if maxLength < (t.takeWhile Char.isDigit).length then .error .tooLong
  else if '_' ∈ t then .error .notNumeral
  else
    match digits? DecimalDigit.asciiValue? t with
    | some n => .ok n
    | none => .error .notNumeral

/-- The value of a literal that is in the canonical form. -/
def readCanonical : Text → Except Fault Int
  | '-' :: digits => (natural digits).map fun n => -(n : Int)
  | digits => (natural digits).map fun n => (n : Int)

/-- The value of a literal in a request. One that only becomes canonical step by step may not be too
long either, but then it counts as no numeral. -/
def readWhole (t : Text) : Except Fault Int :=
  match readCanonical t.trim with
  | .error .notNumeral =>
    match (canonical? t.trim).map readCanonical with
    | some (.ok n) => .ok n
    | _ => .error .notNumeral
  | result => result

end TapeCompiler.IntegerLiteral
