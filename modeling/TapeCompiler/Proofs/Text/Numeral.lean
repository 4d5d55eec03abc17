import TapeCompiler.Proofs.Text.Lines
import TapeCompiler.Text.Numeral

/-!
# Numerals tell their numbers

A numeral is made of digits, with a minus sign in front of those of a negative number. Two numbers
have different numerals, and a numeral that is followed by any other character can be told from what
stands behind it.

## Main results

* `Numeral.isDigit_of_mem_ofNat`, `Numeral.not_mem_ofInt` — the characters of a numeral
* `Numeral.ofInt_injective` — a number is determined by its numeral
* `Numeral.ofInt_append_inj` — whatever stands behind it
-/

namespace TapeCompiler.Numeral

/-! ### Characters -/

theorem isDigit_of_mem_ofNat {n : Nat} {c : Char} (h : c ∈ ofNat n) : c.isDigit = true :=
  Nat.isDigit_of_mem_toDigits (by decide) (by decide) h

theorem not_mem_ofNat {c : Char} (hc : c.isDigit = false) (n : Nat) : c ∉ ofNat n := by
  intro h
  rw [isDigit_of_mem_ofNat h] at hc
  cases hc

theorem not_mem_ofInt {c : Char} (hsign : c ≠ '-') (hc : c.isDigit = false) (n : Int) :
    c ∉ ofInt n := by
  cases n with
  | ofNat n => exact not_mem_ofNat hc n
  | negSucc n => simpa [ofInt, hsign] using not_mem_ofNat hc (n + 1)

theorem lineBreak_not_mem_ofNat (n : Nat) : '\n' ∉ ofNat n :=
  not_mem_ofNat (by decide) n

theorem lineBreak_not_mem_ofInt (n : Int) : '\n' ∉ ofInt n :=
  not_mem_ofInt (by decide) (by decide) n

theorem length_ofNat_le {n k : Nat} (hk : 0 < k) (h : n < Nat.pow 10 k) :
    (ofNat n).length ≤ k := by
  rw [Nat.pow_eq] at h
  exact (Nat.length_toDigits_le_iff (by decide) hk).mpr h

theorem tooLarge_pos : 0 < tooLarge := by
  unfold tooLarge
  generalize 4300 = digits
  exact Nat.pow_pos (by decide)

/-! ### Numbers -/

theorem ofNat_injective : Function.Injective ofNat := by
  intro m n h
  have hvalue := congrArg (Nat.ofDigitChars 10 · 0) h
  simpa only [ofNat, Nat.ofDigitChars_ten_toDigits] using hvalue

theorem ofInt_ofNat_ne_negSucc (m n : Nat) : ofInt (.ofNat m) ≠ ofInt (.negSucc n) := by
  intro h
  -- The minus sign is no digit.
  have hsign : '-' ∈ ofNat m := by
    have hmem : '-' ∈ ofInt (.negSucc n) := List.mem_cons_self
    rwa [← h] at hmem
  exact not_mem_ofNat (by decide) m hsign

/-- A number is determined by its numeral. -/
theorem ofInt_injective : Function.Injective ofInt := by
  intro m n h
  cases m with
  | ofNat m =>
    cases n with
    | ofNat n => rw [ofNat_injective h]
    | negSucc n => exact absurd h (ofInt_ofNat_ne_negSucc m n)
  | negSucc m =>
    cases n with
    | ofNat n => exact absurd h.symm (ofInt_ofNat_ne_negSucc n m)
    | negSucc n =>
      have hdigits := ofNat_injective (List.cons.inj h).2
      rw [Nat.succ.inj hdigits]

/-- A number is determined by its numeral, whatever stands behind a character that ends it. -/
theorem ofInt_append_inj {c : Char} (hsign : c ≠ '-') (hc : c.isDigit = false) {m n : Int}
    {rest rest' : Text} (h : ofInt m ++ c :: rest = ofInt n ++ c :: rest') :
    m = n ∧ rest = rest' := by
  obtain ⟨hnumeral, hrest⟩ :=
    eq_of_append_cons_eq (not_mem_ofInt hsign hc m) (not_mem_ofInt hsign hc n) h
  exact ⟨ofInt_injective hnumeral, hrest⟩

end TapeCompiler.Numeral
