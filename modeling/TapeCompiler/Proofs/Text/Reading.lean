import Mathlib.Data.List.TakeWhile
import Mathlib.Tactic.SplitIfs
import TapeCompiler.Proofs.Text.Numeral
import TapeCompiler.Text.IntegerLiteral
import TapeCompiler.Text.LineBreak
import TapeCompiler.Text.Utf8

/-!
# Reading what was written

A text that is written to a file is read back as it was, if there is no carriage return in it: its
bytes are decoded to the same characters, and its line breaks are those of a text that was read. The
numeral of a number, given on a command line, is read as that number, unless it has too many digits.

## Main results

* `Utf8.decode_encode` — the bytes of a text stand for that text
* `Text.unifyLineBreaks_eq_self` — line feeds stay what they are
* `IntegerLiteral.read?_ofNat` — a numeral is read as its number
-/

namespace TapeCompiler

/-! ### Files -/

/-- The bytes of a text stand for that text. -/
theorem Utf8.decode_encode (t : Text) : decode (encode t) = .ok t := by
  have hread : String.fromUTF8? (String.ofList t).toUTF8 = some (String.ofList t) := by
    rw [String.fromUTF8?, String.toUTF8_eq_toByteArray, dif_pos (String.ofList t).isValidUTF8]
    rfl
  rw [decode, encode, hread]
  simp only [String.toList_ofList]

namespace Text

/-- A text without carriage returns has its line breaks unified. -/
theorem unifyLineBreaks_eq_self {t : Text} (h : '\r' ∉ t) : t.unifyLineBreaks = t := by
  induction t with
  | nil => rfl
  | cons c rest ih =>
    rw [List.mem_cons, not_or] at h
    have hc : c ≠ '\r' := fun hc => h.1 hc.symm
    rw [unifyLineBreaks, if_neg hc, ih h.2]
    rintro rest' rfl
    exact absurd rfl hc

/-- No carriage return is left in a text that was read. -/
theorem carriageReturn_not_mem_unifyLineBreaks (t : Text) : '\r' ∉ t.unifyLineBreaks := by
  fun_induction unifyLineBreaks t with
  | case1 => simp
  | case2 rest ih => simpa using ih
  | case3 c rest _ ih =>
    have hc : '\r' ≠ if c = '\r' then '\n' else c := by
      split_ifs with hc
      · decide
      · exact fun h => hc h.symm
    rw [List.mem_cons, not_or]
    exact ⟨hc, ih⟩

end Text

/-! ### Numbers -/

theorem DecimalDigit.value?_of_isDigit {c : Char} (h : c.isDigit = true) :
    value? c = some (c.toNat - '0'.toNat) := by
  have hc : 48 ≤ c.toNat ∧ c.toNat ≤ 57 := Char.isDigit_iff_toNat.mp h
  -- The first zero of the table is that of the ten digits.
  rw [value?, zeros, List.findSome?_cons, if_pos ⟨hc.1, by omega⟩]
  rfl

theorem isWhiteSpace_of_isDigit {c : Char} (h : c.isDigit = true) : isWhiteSpace c = false := by
  have hc : 48 ≤ c.toNat ∧ c.toNat ≤ 57 := Char.isDigit_iff_toNat.mp h
  simp only [isWhiteSpace, List.contains_cons, List.contains_nil, Bool.or_eq_false_iff,
    Bool.and_eq_false_iff, decide_eq_false_iff_not, beq_eq_false_iff_ne,
    and_true]
  omega

theorem Text.trim_eq_self {t : Text} (h : ∀ c ∈ t, isWhiteSpace c = false) : t.trim = t := by
  have hfront : ∀ u : Text, (∀ c ∈ u, isWhiteSpace c = false) → u.dropWhile isWhiteSpace = u :=
    fun u hu => List.dropWhile_eq_self_iff.mpr fun hpos => by simp [hu _ (List.getElem_mem hpos)]
  rw [trim, hfront t h, hfront t.reverse fun c hc => h c (List.mem_reverse.mp hc),
    List.reverse_reverse]

namespace IntegerLiteral

/-- A row of digits is read to its end. -/
theorem moreDigits_of_isDigit {digits : Text} (h : ∀ c ∈ digits, c.isDigit = true) (value : Nat) :
    moreDigits DecimalDigit.value? value digits = some (Nat.ofDigitChars 10 digits value) := by
  induction digits generalizing value with
  | nil => simp [moreDigits]
  | cons c rest ih =>
    rw [List.forall_mem_cons] at h
    have hc : c ≠ '_' := by
      rintro rfl
      exact absurd h.1 (by decide)
    rw [moreDigits, DecimalDigit.value?_of_isDigit h.1, Option.bind_some, ih h.2,
      Nat.ofDigitChars_cons]
    rintro d rest' rfl
    exact absurd rfl hc

/-- A numeral is read as its number, unless it has too many digits. -/
theorem read?_ofNat {n : Nat} (h : (Numeral.ofNat n).length ≤ maxLength) :
    read? (Numeral.ofNat n) = some (n : Int) := by
  have hdigits : ∀ c ∈ Numeral.ofNat n, c.isDigit = true := fun c => Numeral.isDigit_of_mem_ofNat
  have hcount : ¬ maxLength <
      (Numeral.ofNat n).countP fun c => (DecimalDigit.value? c).isSome :=
    Nat.not_lt.mpr (List.countP_le_length.trans h)
  have htrim : (Numeral.ofNat n).trim = Numeral.ofNat n :=
    Text.trim_eq_self fun c hc => isWhiteSpace_of_isDigit (hdigits c hc)
  have hvalue : Nat.ofDigitChars 10 (Numeral.ofNat n) 0 = n := Nat.ofDigitChars_ten_toDigits
  rw [read?, if_neg hcount, htrim]
  have hne : Numeral.ofNat n ≠ [] := Nat.toDigits_ne_nil
  generalize Numeral.ofNat n = numeral at hdigits hvalue hne
  cases numeral with
  | nil => exact absurd rfl hne
  | cons c rest =>
    rw [List.forall_mem_cons] at hdigits
    have hread : digits? DecimalDigit.value? (c :: rest) = some n := by
      rw [digits?, DecimalDigit.value?_of_isDigit hdigits.1, Option.bind_some,
        moreDigits_of_isDigit hdigits.2, ← hvalue, Nat.ofDigitChars_cons]
      simp
    -- A digit is no sign.
    split
    · next heq =>
      obtain ⟨rfl, -⟩ := List.cons_eq_cons.mp heq
      exact absurd hdigits.1 (by decide)
    · next heq =>
      obtain ⟨rfl, -⟩ := List.cons_eq_cons.mp heq
      exact absurd hdigits.1 (by decide)
    · rw [hread]
      rfl

end IntegerLiteral

end TapeCompiler
