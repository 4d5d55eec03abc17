import TapeCompiler.Json.Basic
import TapeCompiler.Text.BinaryFraction
import TapeCompiler.Text.Cursor
import TapeCompiler.Text.Halves

/-!
# Reading JSON

A text is read from left to right. Arrays and objects that have begun are kept on a stack, so the
nesting is bounded only where a bound is asked for. The first fault is reported with its offset.
Numbers with a point or an exponent are rounded to binary floating point numbers of 64 bits. Some
latitude is given: `NaN`, `Infinity` and `-Infinity` are numbers, an escape may stand for half of a
surrogate pair alone, and of several fields with one key the last one counts.

## Main definitions

* `Json.Terms` — what a reading keeps to
* `Json.readWith`, `Json.read` — the value that a text holds
* `Json.Fault`, `Json.Cause.message` — why it holds none, where, and the wording
-/

namespace TapeCompiler

namespace Json

/-- Why a text is not JSON. -/
inductive Cause where
  /-- There is no value. -/
  | noValue
  /-- There is no key. -/
  | noKey
  /-- There is no colon behind a key. -/
  | noColon
  /-- There is no comma behind a value. -/
  | noComma
  /-- There is more than one value. -/
  | extraData
  /-- A text has no closing quote. -/
  | unterminatedText
  /-- A text holds a control character. -/
  | controlCharacter
  /-- There is no such escape. -/
  | unknownEscape
  /-- A numbered escape does not have four hexadecimal digits. -/
  | numberedEscape
  /-- Arrays and objects are nested too deep. -/
  | tooDeep
  /-- An integer has too many digits. -/
  | tooManyDigits
deriving DecidableEq, Repr

/-- The wording of a cause. -/
def Cause.message : Cause → Text
  | noValue => "Expecting value".toList
  | noKey => "Expecting property name enclosed in double quotes".toList
  | noColon => "Expecting ':' delimiter".toList
  | noComma => "Expecting ',' delimiter".toList
  | extraData => "Extra data".toList
  | unterminatedText => "Unterminated string starting at".toList
  | controlCharacter => "Invalid control character at".toList
  | unknownEscape => "Invalid \\escape".toList
  | numberedEscape => "Invalid \\uXXXX escape".toList
  | tooDeep => "Nesting too deep".toList
  | tooManyDigits => "Integer too long".toList

/-- Whether a text with such a fault is refused because of a bound, though it may be JSON. -/
def Cause.isBound : Cause → Bool
  | tooDeep => true
  | tooManyDigits => true
  | _ => false

/-- Why a text is not JSON, and where. -/
structure Fault where
  /-- What is wrong. -/
  cause : Cause
  /-- The offset of the place. -/
  offset : Nat
deriving DecidableEq, Repr

/-- What a reading keeps to: stand-ins for halves of surrogate pairs that stand alone, and bounds
where there are any. -/
structure Terms where
  /-- The stand-ins. -/
  halves : Halves := {}
  /-- The greatest number of arrays and objects within each other. -/
  depth : Option Nat := none
  /-- The greatest number of digits of an integer. -/
  digits : Option Nat := none

/-- Whether a number exceeds a bound. -/
def exceeds (bound : Option Nat) (n : Nat) : Bool :=
  match bound with
  | some most => most < n
  | none => false

/-- Whether a character is white space between the parts of a value. -/
def isSpace (c : Char) : Bool :=
  c = ' ' || c = '\t' || c = '\r' || c = '\n'

/-- Moves a cursor over white space. -/
def skipSpace (c : Cursor) : Cursor :=
  c.skipWhile isSpace

theorem length_rest_skipSpace_le (c : Cursor) : (skipSpace c).rest.length ≤ c.rest.length :=
  Cursor.length_rest_skipWhile_le _ _

/-! ### Texts -/

/-- The character that a backslash and one other character stand for. -/
def escaped? : Char → Option Char
  | '"' => some '"'
  | '\\' => some '\\'
  | '/' => some '/'
  | 'b' => some '\x08'
  | 'f' => some '\x0c'
  | 'n' => some '\n'
  | 'r' => some '\r'
  | 't' => some '\t'
  | _ => none

/-- The value of four hexadecimal digits at the beginning of a text that goes on behind them. -/
def fourDigits? : Text → Option Nat
  | a :: b :: c :: d :: _ :: _ => do
    let a ← Numeral.hexDigit? a
    let b ← Numeral.hexDigit? b
    let c ← Numeral.hexDigit? c
    let d ← Numeral.hexDigit? d
    return ((a * 16 + b) * 16 + c) * 16 + d
  | _ => none

/-- The character of a surrogate pair, if the two units are one. -/
def ofUnits? (high low : Nat) : Option Char :=
  if 0xD800 ≤ high ∧ high < 0xDC00 ∧ 0xDC00 ≤ low ∧ low < 0xE000 then
    some (Char.ofNat (0x10000 + (high - 0xD800) * 0x400 + (low - 0xDC00)))
  else none

/-- Whether a second numbered escape follows that is to be looked at: only behind the first half of
a surrogate pair, and not at the end of the text. -/
def secondEscape? (unit : Nat) : Text → Option Text
  | '\\' :: 'u' :: digits =>
    if 0xD800 ≤ unit ∧ unit < 0xDC00 ∧ digits.drop 4 ≠ [] then some digits else none
  | _ => none

/-- Reads a numbered escape from its digits on. Gives the character and the number of characters
read; `offset` is the place of the letter before the digits. -/
def numberedEscape (halves : Halves) (offset : Nat) (t : Text) : Except Fault (Char × Nat) :=
  match fourDigits? t with
  | none => .error ⟨.numberedEscape, offset⟩
  | some unit =>
    match secondEscape? unit (t.drop 4) with
    | none => .ok (halves.ofCode unit, 4)
    | some digits =>
      match fourDigits? digits with
      | none => .error ⟨.numberedEscape, offset + 6⟩
      | some low =>
        match ofUnits? unit low with
        | some c => .ok (c, 10)
        | none => .ok (halves.ofCode unit, 4)

/-- Reads the rest of a text whose opening quote stands at `start`, behind the characters in
`before`, which stand in reverse. -/
def textFrom (halves : Halves) (start : Nat) (before : Text) (c : Cursor) :
    Except Fault (Text × Cursor) :=
  match c with
  | ⟨_, []⟩ => .error ⟨.unterminatedText, start⟩
  | ⟨offset, x :: rest⟩ =>
    if x = '"' then .ok (before.reverse, ⟨offset + 1, rest⟩)
    else if x < ' ' then .error ⟨.controlCharacter, offset⟩
    else if x = '\\' then
      match rest with
      | [] => .error ⟨.unterminatedText, start⟩
      | y :: rest =>
        if y = 'u' then
          match numberedEscape halves (offset + 1) rest with
          | .ok (z, n) => textFrom halves start (z :: before) ⟨offset + 2 + n, rest.drop n⟩
          | .error fault => .error fault
        else
          match escaped? y with
          | some z => textFrom halves start (z :: before) ⟨offset + 2, rest⟩
          | none => .error ⟨.unknownEscape, offset⟩
    else textFrom halves start (x :: before) ⟨offset + 1, rest⟩
termination_by c.rest.length
decreasing_by all_goals simp only [List.length_cons, List.length_drop]; omega

theorem length_rest_lt_of_textFrom {halves : Halves} {start : Nat} {before t : Text}
    {c behind : Cursor} (h : textFrom halves start before c = .ok (t, behind)) :
    behind.rest.length < c.rest.length := by
  fun_induction textFrom halves start before c with
  | case1 => cases h
  | case2 => cases h; simp
  | case3 => cases h
  | case4 => cases h
  | case5 _ _ _ _ _ _ _ _ ih =>
    have := ih h
    simp only [List.length_drop, List.length_cons] at this ⊢
    omega
  | case6 => cases h
  | case7 _ _ _ _ _ _ _ _ _ ih =>
    have := ih h
    simp only [List.length_cons] at this ⊢
    omega
  | case8 => cases h
  | case9 _ _ _ _ _ _ _ ih =>
    have := ih h
    simp only [List.length_cons] at this ⊢
    omega

/-! ### Numbers and words -/

/-- The digits at the beginning of a text. -/
def digits (t : Text) : Text :=
  t.takeWhile Char.isDigit

/-- The natural number that a row of digits stands for. -/
def natural (digits : Text) : Nat :=
  digits.foldl (fun n d => 10 * n + (d.toNat - '0'.toNat)) 0

/-- The digits in front of the point of a number: a zero, or digits that do not start with one. -/
def wholeDigits (t : Text) : Text :=
  match t with
  | '0' :: _ => ['0']
  | _ => digits t

/-- The digits behind a point, if the text starts with a point. -/
def fractionDigits : Text → Text
  | '.' :: t => digits t
  | _ => []

/-- The sign and the digits of an exponent, if the text starts with one. -/
def exponentParts : Text → Text × Text
  | e :: t =>
    if e = 'e' ∨ e = 'E' then
      match t with
      | '-' :: t => (['-'], digits t)
      | '+' :: t => (['+'], digits t)
      | _ => ([], digits t)
    else ([], [])
  | [] => ([], [])

/-- The value of a number with a point or an exponent. -/
def ofDecimal (d : Decimal) : Json :=
  match d.rounded? with
  | some d => decimal d
  | none => special (.infinity d.negative)

/-- The number without a sign at the beginning of a text, and the number of its characters. A point
without digits behind it, or an exponent without any, is not part of the number. -/
def unsigned? (negative : Bool) (t : Text) : Option (Json × Nat) :=
  let whole := wholeDigits t
  if whole = [] then none
  else
    let fraction := fractionDigits (t.drop whole.length)
    let fractionLength := if fraction = [] then 0 else fraction.length + 1
    let (sign, exponent) := exponentParts (t.drop (whole.length + fractionLength))
    let exponentLength := if exponent = [] then 0 else 1 + sign.length + exponent.length
    let value :=
      if fraction = [] ∧ exponent = [] then
        let n : Int := natural whole
        int (if negative then -n else n)
      else
        let power : Int := natural exponent
        ofDecimal {
          negative
          digits := natural (whole ++ fraction)
          exponent := (if sign = ['-'] then -power else power) - fraction.length }
    some (value, whole.length + fractionLength + exponentLength)

/-- The words for values. -/
def words : List (Text × Json) :=
  [("null".toList, null), ("true".toList, bool true), ("false".toList, bool false),
    ("NaN".toList, special .nan), ("Infinity".toList, special (.infinity false)),
    ("-Infinity".toList, special (.infinity true))]

/-- The word or number at the beginning of a text, and the number of its characters. -/
def wordOrNumber? (t : Text) : Option (Json × Nat) :=
  match words.find? fun (word, _) => word.isPrefixOf t with
  | some (word, value) => some (value, word.length)
  | none =>
    match t with
    | '-' :: t => (unsigned? true t).map fun (value, n) => (value, n + 1)
    | t => unsigned? false t

/-- Whether a value is an integer with more digits than allowed, if it is written in the first `n`
characters of a text. -/
def isTooLong (terms : Terms) (t : Text) (n : Nat) : Json → Bool
  | int _ => exceeds terms.digits ((t.take n).countP Char.isDigit)
  | _ => false

theorem pos_of_unsigned? {negative : Bool} {t : Text} {value : Json} {n : Nat}
    (h : unsigned? negative t = some (value, n)) : 0 < n := by
  simp only [unsigned?] at h
  split at h
  · cases h
  · rename_i hwhole
    have := List.length_pos_iff.mpr hwhole
    simp only [Option.some.injEq, Prod.mk.injEq] at h
    omega

theorem pos_of_wordOrNumber? {t : Text} {value : Json} {n : Nat}
    (h : wordOrNumber? t = some (value, n)) : 0 < n := by
  unfold wordOrNumber? at h
  split at h
  · rename_i word _ hfind
    have hmem := List.mem_of_find?_eq_some hfind
    cases h
    simp only [words, List.mem_cons, Prod.mk.injEq, List.not_mem_nil, or_false] at hmem
    rcases hmem with h | h | h | h | h | h <;> simp [h.1]
  · split at h
    · obtain ⟨⟨_, m⟩, _, hm⟩ := Option.map_eq_some_iff.mp h
      cases hm
      exact Nat.succ_pos m
    · exact pos_of_unsigned? h

/-! ### Arrays and objects -/

/-- Puts a field into an object. A field with the same key is replaced. -/
def putField (key : Text) (value : Json) : List (Text × Json) → List (Text × Json)
  | [] => [(key, value)]
  | (k, v) :: rest => if k = key then (k, value) :: rest else (k, v) :: putField key value rest

/-- An array or object that has begun. -/
inductive Container where
  /-- An array with the values before the current one, the latest first. -/
  | array (before : List Json)
  /-- An object with the fields before the current one, and the key of that. -/
  | object (before : List (Text × Json)) (key : Text)

/-- What is read next. -/
inductive Phase where
  /-- A value. -/
  | value
  /-- What stands behind this value. -/
  | behind (value : Json)

/-- The state of the reading of a value. -/
structure Reading where
  /-- The place up to which the text has been read. -/
  cursor : Cursor
  /-- The arrays and objects that have begun, the innermost first. -/
  containers : List Container := []
  /-- What is read next. -/
  phase : Phase := .value

/-- What comes of reading on. -/
inductive Step where
  /-- The reading goes on. -/
  | more (r : Reading)
  /-- The reading ends. -/
  | done (outcome : Except Fault Json)

namespace Reading

/-- Reads the key of a field and the colon behind it, and goes on with the value. -/
def key (halves : Halves) (before : List (Text × Json)) (outer : List Container) (c : Cursor) :
    Step :=
  match c.rest with
  | '"' :: _ =>
    match textFrom halves c.offset [] (c.advance 1) with
    | .error fault => .done (.error fault)
    | .ok (key, behind) =>
      let colon := skipSpace behind
      match colon.rest with
      | ':' :: _ => .more ⟨skipSpace (colon.advance 1), .object before key :: outer, .value⟩
      | _ => .done (.error ⟨.noColon, colon.offset⟩)
  | _ => .done (.error ⟨.noKey, c.offset⟩)

/-- Reads on behind the bracket that begins an array. -/
def array (containers : List Container) (inner : Cursor) : Step :=
  match inner.rest with
  | ']' :: _ => .more ⟨inner.advance 1, containers, .behind (Json.array [])⟩
  | _ => .more ⟨inner, .array [] :: containers, .value⟩

/-- Reads on behind the brace that begins an object. -/
def object (halves : Halves) (containers : List Container) (inner : Cursor) : Step :=
  match inner.rest with
  | '\x7d' :: _ => .more ⟨inner.advance 1, containers, .behind (Json.object [])⟩
  | _ => key halves [] containers inner

/-- Reads a value, or the beginning of one. -/
def value (terms : Terms) (containers : List Container) (c : Cursor) : Step :=
  match c.rest with
  | '"' :: _ =>
    match textFrom terms.halves c.offset [] (c.advance 1) with
    | .error fault => .done (.error fault)
    | .ok (t, behind) => .more ⟨behind, containers, .behind (text t)⟩
  | '[' :: _ =>
    if exceeds terms.depth (containers.length + 1) then .done (.error ⟨.tooDeep, c.offset⟩)
    else array containers (skipSpace (c.advance 1))
  | '\x7b' :: _ =>
    if exceeds terms.depth (containers.length + 1) then .done (.error ⟨.tooDeep, c.offset⟩)
    else object terms.halves containers (skipSpace (c.advance 1))
  | t =>
    match wordOrNumber? t with
    | some (value, n) =>
      if isTooLong terms t n value then .done (.error ⟨.tooManyDigits, c.offset⟩)
      else .more ⟨c.advance n, containers, .behind value⟩
    | none => .done (.error ⟨.noValue, c.offset⟩)

/-- Reads on behind a value. -/
def behind (halves : Halves) (containers : List Container) (value : Json) (c : Cursor) : Step :=
  match containers with
  | [] =>
    if c.rest = [] then .done (.ok value) else .done (.error ⟨.extraData, c.offset⟩)
  | .array before :: outer =>
    match c.rest with
    | ']' :: _ =>
      .more ⟨c.advance 1, outer, .behind (Json.array (value :: before).reverse)⟩
    | ',' :: _ => .more ⟨skipSpace (c.advance 1), .array (value :: before) :: outer, .value⟩
    | _ => .done (.error ⟨.noComma, c.offset⟩)
  | .object before key :: outer =>
    match c.rest with
    | '\x7d' :: _ =>
      .more ⟨c.advance 1, outer, .behind (Json.object (putField key value before))⟩
    | ',' :: _ => Reading.key halves (putField key value before) outer (skipSpace (c.advance 1))
    | _ => .done (.error ⟨.noComma, c.offset⟩)

/-- Reads on over the next part. -/
def step (terms : Terms) (r : Reading) : Step :=
  match r.phase with
  | .value => value terms r.containers r.cursor
  | .behind v => behind terms.halves r.containers v (skipSpace r.cursor)

theorem length_rest_lt_of_key {halves : Halves} {before : List (Text × Json)}
    {outer : List Container} {c : Cursor} {next : Reading}
    (h : key halves before outer c = .more next) : next.cursor.rest.length < c.rest.length := by
  unfold key at h
  split at h
  · rename_i rest hrest
    split at h
    · cases h
    · rename_i t behind htext
      have hlt := length_rest_lt_of_textFrom htext
      have hcolon := length_rest_skipSpace_le behind
      simp only at h
      split at h
      · cases h
        have hnext := length_rest_skipSpace_le ((skipSpace behind).advance 1)
        simp only [Cursor.rest_advance, List.length_drop] at hlt hnext ⊢
        omega
      · cases h
  · cases h

theorem length_rest_le_of_array {containers : List Container} {c : Cursor} {next : Reading}
    (h : array containers c = .more next) : next.cursor.rest.length ≤ c.rest.length := by
  unfold array at h
  split at h <;> cases h
  · simp
  · exact Nat.le_refl _

theorem length_rest_le_of_object {halves : Halves} {containers : List Container} {c : Cursor}
    {next : Reading} (h : object halves containers c = .more next) :
    next.cursor.rest.length ≤ c.rest.length := by
  unfold object at h
  split at h
  · cases h
    simp
  · exact Nat.le_of_lt (length_rest_lt_of_key h)

theorem length_rest_lt_of_value {terms : Terms} {containers : List Container} {c : Cursor}
    {next : Reading} (h : value terms containers c = .more next) :
    next.cursor.rest.length < c.rest.length := by
  unfold value at h
  split at h
  · rename_i rest hrest
    split at h
    · cases h
    · rename_i t behind htext
      have hlt := length_rest_lt_of_textFrom htext
      cases h
      simp only [Cursor.rest_advance, List.length_drop] at hlt ⊢
      omega
  · rename_i rest hrest
    have hinner := length_rest_skipSpace_le (c.advance 1)
    simp only [Cursor.rest_advance, List.length_drop, hrest, List.length_cons] at hinner ⊢
    split at h
    · cases h
    · have := length_rest_le_of_array h
      omega
  · rename_i rest hrest
    have hinner := length_rest_skipSpace_le (c.advance 1)
    simp only [Cursor.rest_advance, List.length_drop, hrest, List.length_cons] at hinner ⊢
    split at h
    · cases h
    · have := length_rest_le_of_object h
      omega
  · split at h
    · rename_i v n hnumber
      have hn := pos_of_wordOrNumber? hnumber
      split at h
      · cases h
      · cases h
        cases hrest : c.rest with
        | nil => simp [hrest, wordOrNumber?, words, unsigned?, wholeDigits, digits] at hnumber
        | cons x rest =>
          simp only [Cursor.rest_advance, hrest, List.length_drop, List.length_cons]
          omega
    · cases h

theorem length_rest_lt_of_behind {halves : Halves} {containers : List Container} {v : Json}
    {c : Cursor} {next : Reading} (h : behind halves containers v c = .more next) :
    next.cursor.rest.length < c.rest.length := by
  unfold behind at h
  split at h
  · split at h <;> cases h
  · split at h
    · rename_i hrest
      cases h
      simp [hrest]
    · rename_i rest hrest
      have hinner := length_rest_skipSpace_le (c.advance 1)
      cases h
      simp only [Cursor.rest_advance, List.length_drop, hrest, List.length_cons] at hinner ⊢
      omega
    · cases h
  · split at h
    · rename_i hrest
      cases h
      simp [hrest]
    · rename_i rest hrest
      have hinner := length_rest_skipSpace_le (c.advance 1)
      have hkey := length_rest_lt_of_key h
      simp only [Cursor.rest_advance, List.length_drop, hrest, List.length_cons] at hinner ⊢
      omega
    · cases h

theorem length_rest_lt_of_step {terms : Terms} {r next : Reading}
    (h : r.step terms = .more next) : next.cursor.rest.length < r.cursor.rest.length := by
  unfold step at h
  split at h
  · exact length_rest_lt_of_value h
  · exact Nat.lt_of_lt_of_le (length_rest_lt_of_behind h) (length_rest_skipSpace_le _)

/-- Reads on to the end of the text or to the first fault. -/
def run (terms : Terms) (r : Reading) : Except Fault Json :=
  match _ : r.step terms with
  | .more next => run terms next
  | .done outcome => outcome
termination_by r.cursor.rest.length
decreasing_by exact length_rest_lt_of_step ‹_›

end Reading

/-- The value that a text holds, or the first fault in it. -/
def readWith (terms : Terms) (t : Text) : Except Fault Json :=
  Reading.run terms { cursor := skipSpace (.start t) }

/-- The value that a text holds, or the first fault in it, where there are no bounds. -/
def read (t : Text) : Except Fault Json :=
  readWith {} t

end Json

end TapeCompiler
