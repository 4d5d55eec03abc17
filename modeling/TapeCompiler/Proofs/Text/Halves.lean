import Mathlib.Tactic.SplitIfs
import TapeCompiler.Json.Printer
import TapeCompiler.Text.Halves

/-!
# Texts without halves

A stand-in for half of a surrogate pair is never a printed character of ASCII. So whatever is made
out of a text by quoting, and by putting words and numerals around it, holds a half only if the text
does.

## Main definitions

* `Text.IsPlain` — a text of ASCII characters other than the first
* `Halves.AvoidPlain` — stand-ins that are no such characters

## Main results

* `Halves.avoidPlain_among` — the stand-ins that are chosen are like this
* `Halves.AvoidPlain.occurIn_ofText`, `Halves.AvoidPlain.occurIn_quoted` — neither way of quoting
  adds a half
* `Halves.AvoidPlain.occurIn_render_object` — nor does JSON around texts
* `Halves.firstRun?_eq_none_iff` — the search for halves finds one if there is one
-/

namespace TapeCompiler

/-! ### Plain texts -/

/-- All characters are in ASCII, and none is the one with the code zero. -/
def Text.IsPlain (t : Text) : Prop :=
  ∀ c ∈ t, 0 < c.toNat ∧ c.toNat < 0x80

instance (t : Text) : Decidable t.IsPlain :=
  List.decidableBAll (fun c : Char => 0 < c.toNat ∧ c.toNat < 0x80) t

theorem Text.IsPlain.append {s t : Text} (hs : s.IsPlain) (ht : t.IsPlain) :
    Text.IsPlain (s ++ t) := by
  intro c hc
  exact (List.mem_append.mp hc).elim (hs c) (ht c)

theorem isPlain_digitChar : ∀ d < 16, Text.IsPlain [Nat.digitChar d] := by
  decide

theorem isPlain_toDigits {base : Nat} (hbase : 1 < base) (hle : base ≤ 16) (n : Nat) :
    Text.IsPlain (Nat.toDigits base n) := by
  induction n using Nat.strongRecOn with
  | ind n ih =>
    rw [Nat.toDigits_eq_if hbase]
    split_ifs with hn
    · exact isPlain_digitChar n (by omega)
    · have hlt : n / base < n := Nat.div_lt_self (by omega) hbase
      have hmod : n % base < base := Nat.mod_lt n (by omega)
      exact (ih _ hlt).append (isPlain_digitChar _ (by omega))

theorem Numeral.isPlain_ofInt (n : Int) : (Numeral.ofInt n).IsPlain := by
  cases n with
  | ofNat n => exact isPlain_toDigits (by decide) (by decide) n
  | negSucc n =>
    have hsign : Text.IsPlain ['-'] := by decide
    exact hsign.append (isPlain_toDigits (by decide) (by decide) _)

theorem Quoted.isPlain_hexadecimal (width code : Nat) :
    (Quoted.hexadecimal width code).IsPlain := by
  refine Text.IsPlain.append ?_ (isPlain_toDigits (by decide) (by decide) code)
  intro c hc
  rw [List.eq_of_mem_replicate hc]
  decide

namespace Halves

variable {h : Halves}

/-! ### Halves in a text -/

theorem occurIn_eq_false_iff {t : Text} : h.occurIn t = false ↔ ∀ c ∈ t, h.unit? c = none := by
  simp [occurIn]

@[simp] theorem occurIn_nil : h.occurIn [] = false :=
  rfl

@[simp] theorem occurIn_cons (c : Char) (t : Text) :
    h.occurIn (c :: t) = ((h.unit? c).isSome || h.occurIn t) := by
  simp [occurIn]

@[simp] theorem occurIn_append (s t : Text) :
    h.occurIn (s ++ t) = (h.occurIn s || h.occurIn t) := by
  simp [occurIn]

theorem occurIn_take {t : Text} (ht : h.occurIn t = false) (n : Nat) :
    h.occurIn (t.take n) = false := by
  rw [occurIn_eq_false_iff] at ht ⊢
  exact fun c hc => ht c (List.mem_of_mem_take hc)

theorem occurIn_flatMap {f : Char → Text} (hf : ∀ c, h.unit? c = none → h.occurIn (f c) = false)
    {t : Text} (ht : h.occurIn t = false) : h.occurIn (t.flatMap f) = false := by
  rw [occurIn_eq_false_iff] at ht ⊢
  intro d hd
  obtain ⟨c, hc, hd⟩ := List.mem_flatMap.mp hd
  exact occurIn_eq_false_iff.mp (hf c (ht c hc)) d hd

theorem occurIn_join {separator : Text} (hseparator : h.occurIn separator = false)
    {pieces : List Text} (hpieces : ∀ t ∈ pieces, h.occurIn t = false) :
    h.occurIn (Text.join separator pieces) = false := by
  unfold Text.join
  induction pieces with
  | nil => rfl
  | cons piece others ih =>
    have hpiece := hpieces piece List.mem_cons_self
    cases others with
    | nil => simpa using hpiece
    | cons second others =>
      have hothers := ih fun t ht => hpieces t (List.mem_cons_of_mem _ ht)
      simp [hpiece, hseparator, hothers]

/-- The search for halves finds one if there is one. -/
theorem firstRun?_eq_none_iff {offset : Nat} {t : Text} :
    h.firstRun? offset t = none ↔ h.occurIn t = false := by
  induction t generalizing offset with
  | nil => simp [firstRun?]
  | cons c rest ih =>
    rw [firstRun?, occurIn_cons]
    cases h.unit? c with
    | none => simpa using ih
    | some unit => simp

/-! ### Stand-ins -/

/-- No plain character stands for a half. -/
def AvoidPlain (h : Halves) : Prop :=
  ∀ c : Char, 0 < c.toNat → c.toNat < 0x80 → h.unit? c = none

theorem spareIn_eq_zero_or_le (i : Nat) : spareIn i spareRows = 0 ∨ 0x80 ≤ spareIn i spareRows := by
  simp only [spareRows, spareIn]
  split_ifs <;> omega

/-- Stand-ins are taken from far behind ASCII. If nothing is left there they are all zero. -/
theorem avoidPlain_among (codes : List Nat) : (among codes).AvoidPlain := by
  intro c hpos hlt
  unfold among
  split
  · rfl
  · next halves _ =>
    rw [unit?, Option.map_eq_none_iff, List.find?_eq_none]
    rintro ⟨unit, code⟩ hentry
    have hcode := (List.of_mem_zip hentry).2
    rw [List.mem_filter, List.mem_map] at hcode
    obtain ⟨⟨i, -, rfl⟩, -⟩ := hcode
    rcases spareIn_eq_zero_or_le i with hzero | hle
    · simp only [hzero, decide_eq_true_eq]
      omega
    · simp only [decide_eq_true_eq]
      omega

namespace AvoidPlain

theorem empty : ({} : Halves).AvoidPlain :=
  fun _ _ _ => rfl

variable (havoid : h.AvoidPlain)
include havoid

theorem occurIn_of_isPlain {t : Text} (ht : t.IsPlain) : h.occurIn t = false :=
  occurIn_eq_false_iff.mpr fun c hc => havoid c (ht c hc).1 (ht c hc).2

/-! ### Quoting -/

theorem occurIn_escape (quote : Char) {c : Char} (hc : h.unit? c = none) :
    h.occurIn (Quoted.escape quote c) = false := by
  -- What is written in the place of a character is plain, apart from the character itself.
  have hbackslash : h.unit? '\\' = none := havoid _ (by decide) (by decide)
  have hnumbered : h.occurIn (Quoted.numbered c.toNat) = false := by
    have hescape : ∀ letter width, Text.IsPlain ['\\', letter] →
        Text.IsPlain ('\\' :: letter :: Quoted.hexadecimal width c.toNat) := by
      intro letter width hletter
      exact hletter.append (Quoted.isPlain_hexadecimal width c.toNat)
    unfold Quoted.numbered
    apply havoid.occurIn_of_isPlain
    split_ifs
    · exact hescape 'x' 2 (by decide)
    · exact hescape 'u' 4 (by decide)
    · exact hescape 'U' 8 (by decide)
  unfold Quoted.escape
  split_ifs
  · simp [hbackslash, hc]
  · exact havoid.occurIn_of_isPlain (by decide)
  · exact havoid.occurIn_of_isPlain (by decide)
  · exact havoid.occurIn_of_isPlain (by decide)
  · simp [hc]
  · exact hnumbered

theorem occurIn_ofText {t : Text} (ht : h.occurIn t = false) :
    h.occurIn (Quoted.ofText t) = false := by
  have hquote : h.unit? (Quoted.quoteFor t) = none := by
    unfold Quoted.quoteFor
    split_ifs <;> exact havoid _ (by decide) (by decide)
  have hflat := occurIn_flatMap (fun c hc => havoid.occurIn_escape (Quoted.quoteFor t) hc) ht
  simp [Quoted.ofText, hquote, hflat]

theorem occurIn_quoted {t : Text} (ht : h.occurIn t = false) :
    h.occurIn (Json.quoted t) = false := by
  have hquote : h.unit? '"' = none := havoid _ (by decide) (by decide)
  have hbackslash : h.unit? '\\' = none := havoid _ (by decide) (by decide)
  have hflat : h.occurIn (t.flatMap Json.escape) = false := by
    refine occurIn_flatMap (fun c hc => ?_) ht
    unfold Json.escape
    split_ifs
    · simp [hbackslash, hc]
    · exact havoid.occurIn_of_isPlain (by decide)
    · exact havoid.occurIn_of_isPlain (by decide)
    · exact havoid.occurIn_of_isPlain (by decide)
    · exact havoid.occurIn_of_isPlain (by decide)
    · exact havoid.occurIn_of_isPlain (by decide)
    · have hescape : Text.IsPlain ['\\', 'u'] := by decide
      exact havoid.occurIn_of_isPlain (hescape.append (Quoted.isPlain_hexadecimal 4 c.toNat))
    · simp [hc]
  simp [Json.quoted, hquote, hflat]

theorem occurIn_render_object {fields : List (Text × Json)}
    (hfields : ∀ field ∈ fields, h.occurIn field.1 = false ∧ h.occurIn field.2.render = false) :
    h.occurIn (Json.object fields).render = false := by
  have hrender : ∀ t ∈ Json.renderFields fields, h.occurIn t = false := by
    induction fields with
    | nil => simp [Json.renderFields]
    | cons field rest ih =>
      obtain ⟨key, v⟩ := field
      obtain ⟨hkey, hv⟩ := hfields _ List.mem_cons_self
      have hcolon : h.unit? ':' = none := havoid _ (by decide) (by decide)
      intro t ht
      rw [Json.renderFields, List.mem_cons] at ht
      rcases ht with rfl | ht
      · simp [havoid.occurIn_quoted hkey, hcolon, hv]
      · exact ih (fun field hfield => hfields field (List.mem_cons_of_mem _ hfield)) t ht
  have hjoin := occurIn_join (havoid.occurIn_of_isPlain (t := [',']) (by decide)) hrender
  have hopen : h.unit? '\x7b' = none := havoid _ (by decide) (by decide)
  have hclose : h.unit? '\x7d' = none := havoid _ (by decide) (by decide)
  simp [Json.render, hopen, hclose, hjoin]

end AvoidPlain

end Halves

end TapeCompiler
