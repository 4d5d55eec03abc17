import TapeCompiler.Text.Basic

/-!
# Labels in characters of ASCII

A label is written in characters of ASCII by writing its ASCII characters first, and then telling
how to insert the others one after the other, in the order of their code points. An insertion is a
single number: the number of places that are passed over, where every next code point offers all
places anew. The numbers are written in digits of base 36, the lowest one first. A digit below its
threshold is the last one of its number, and the thresholds are adapted to the size of the numbers
so far.

## Main definitions

* `Punycode.encode` — writes a label in characters of ASCII
* `Punycode.decode?` — reads a label in characters of ASCII
-/

namespace TapeCompiler.Service.HostName.Punycode

/-! ### Numbers -/

/-- The digit with a value below 36. -/
def digit (value : Nat) : Char :=
  Char.ofNat (if value < 26 then 'a'.toNat + value else '0'.toNat + (value - 26))

/-- The value of a digit. -/
def value? (c : Char) : Option Nat :=
  if c.isLower then some (c.toNat - 'a'.toNat)
  else if c.isDigit then some (c.toNat - '0'.toNat + 26)
  else none

/-- The threshold of the digit at a place. -/
def threshold (bias place : Nat) : Nat :=
  min 26 (max 1 (36 * (place + 1) - bias))

theorem threshold_pos (bias place : Nat) : 0 < threshold bias place := by
  unfold threshold
  omega

/-- The digits of a number from a place on. -/
def numeral (bias place n : Nat) : Text :=
  let t := threshold bias place
  if n < t then [digit n]
  else digit (t + (n - t) % (36 - t)) :: numeral bias (place + 1) ((n - t) / (36 - t))
termination_by n
decreasing_by
  have pos := threshold_pos bias place
  exact Nat.lt_of_le_of_lt (Nat.div_le_self _ _) (by omega)

/-- Reads the digits of a number from a place on, and tells what follows. -/
def readNumeral (bias place weight : Nat) : Text → Option (Nat × Text)
  | [] => none
  | c :: rest =>
    match value? c with
    | none => none
    | some d =>
      let t := threshold bias place
      if d < t then some (d * weight, rest)
      else (readNumeral bias (place + 1) (weight * (36 - t)) rest).map
        fun (n, rest) => (d * weight + n, rest)

theorem length_lt_of_readNumeral {bias place weight n : Nat} {t rest : Text}
    (h : readNumeral bias place weight t = some (n, rest)) : rest.length < t.length := by
  induction t generalizing place weight n with
  | nil => simp [readNumeral] at h
  | cons c others ih =>
    simp only [readNumeral] at h
    split at h
    · simp at h
    · split at h
      · simp only [Option.some.injEq, Prod.mk.injEq] at h
        simp [← h.2]
      · simp only [Option.map_eq_some_iff, Prod.mk.injEq, Prod.exists] at h
        obtain ⟨m, r, hr, -, rfl⟩ := h
        have := ih hr
        simp only [List.length_cons]
        omega

/-! ### Thresholds -/

/-- The bias that brings the thresholds near to a number, from a place on. -/
def biasFrom (place n : Nat) : Nat :=
  if 455 < n then biasFrom (place + 1) (n / 35) else 36 * place + 36 * n / (n + 38)
termination_by n
decreasing_by exact Nat.div_lt_self (by omega) (by omega)

/-- The bias behind a number, when there are so many characters in the label. The first number is
likely to be much larger than those that follow. -/
def biasBehind (isFirst : Bool) (n count : Nat) : Nat :=
  let n := if isFirst then n / 700 else n / 2
  biasFrom 0 (n + n / count)

/-- The bias of the first number. -/
def firstBias : Nat := 72

/-- The first code point beyond ASCII. -/
def firstCode : Nat := 128

/-! ### Writing -/

/-- Passes a label in search of a code point, with the number of places passed over so far. Gives
the number of places in front of every character that is found, and those behind the last one. -/
def pass (code passed : Nat) : Text → List Nat × Nat
  | [] => ([], passed)
  | c :: rest =>
    if c.toNat < code then pass code (passed + 1) rest
    else if c.toNat = code then
      let (numbers, passed') := pass code 0 rest
      (passed :: numbers, passed')
    else pass code passed rest

/-- The numbers of the insertions for the given code points, the least of which is not below
`first`. -/
def insertions (label : Text) (first passed : Nat) : List Nat → List Nat
  | [] => []
  | code :: codes =>
    let places := label.countP (·.toNat < code) + 1
    let (numbers, passed) := pass code (passed + (code - first) * places) label
    numbers ++ insertions label (code + 1) (passed + 1) codes

/-- Writes the numbers of insertions behind a number of characters. -/
def numerals (isFirst : Bool) (bias count : Nat) : List Nat → Text
  | [] => []
  | n :: numbers =>
    numeral bias 0 n ++ numerals false (biasBehind isFirst n (count + 1)) (count + 1) numbers

/-- Puts a number into an ascending list, if it is not there. -/
def insertNumber (n : Nat) : List Nat → List Nat
  | [] => [n]
  | m :: others =>
    if n < m then n :: m :: others else if n = m then m :: others else m :: insertNumber n others

/-- The code points beyond ASCII in a label, in ascending order. -/
def codes (label : Text) : List Nat :=
  ((label.map Char.toNat).filter (firstCode ≤ ·)).foldr insertNumber []

/-- Writes a label in characters of ASCII. -/
def encode (label : Text) : Text :=
  let basic := label.filter (·.toNat < firstCode)
  basic ++ (if basic = [] then [] else ['-'])
    ++ numerals true firstBias basic.length (insertions label firstCode 0 (codes label))

/-! ### Reading -/

/-- Reads on behind insertions: `label` is the label so far, and the next insertion is counted from
the code point and the place given. -/
def readFrom (isFirst : Bool) (bias code place : Nat) (label input : Text) : Option Text :=
  if input = [] then some label
  else
    match _h : readNumeral bias 0 1 input with
    | none => none
    | some (n, rest) =>
      let places := label.length + 1
      let code := code + (place + n) / places
      let place := (place + n) % places
      if code.isValidChar then
        readFrom false (biasBehind isFirst n places) code (place + 1)
          (label.take place ++ Char.ofNat code :: label.drop place) rest
      else none
termination_by input.length
decreasing_by exact length_lt_of_readNumeral _h

/-- Reads a label in characters of ASCII, without capital letters. -/
def decode? (t : Text) : Option Text :=
  let insertions := (t.reverse.takeWhile (· ≠ '-')).reverse
  let basic := t.take (t.length - insertions.length - 1)
  readFrom true firstBias firstCode 0 basic insertions

end TapeCompiler.Service.HostName.Punycode
