import TapeCompiler.Source.Lexeme

/-!
# Gaps

A gap is a text of blanks and closed comments. A reader moves over a gap whatever stands behind it,
and where it comes to rest no gap begins: there is the end, a comment that is never closed, or a
character of another kind.

## Main definitions

* `IsGap` — the texts that stand for nothing
* `Settled` — the texts that do not begin with a blank or with a closed comment

## Main results

* `IsGap.append` — two gaps make a gap
* `Cursor.skipGap_append` — a gap is skipped, whatever follows it
* `Cursor.exists_gap` — what is skipped is a gap
* `Cursor.settled_skipGap` — no gap is left behind
-/

namespace TapeCompiler

/-- A text of blanks and of comments from one `#` to the next. -/
inductive IsGap : Text → Prop
  /-- Nothing. -/
  | nil : IsGap []
  /-- A blank in front of a gap. -/
  | blank {c : Char} {rest : Text} (hc : c ∈ [' ', '\t', '\r', '\n']) (hrest : IsGap rest) :
      IsGap (c :: rest)
  /-- A comment in front of a gap. -/
  | comment {inner rest : Text} (hinner : '#' ∉ inner) (hrest : IsGap rest) :
      IsGap ('#' :: inner ++ '#' :: rest)

theorem IsGap.append {gap other : Text} (h : IsGap gap) (hother : IsGap other) :
    IsGap (gap ++ other) := by
  induction h with
  | nil => exact hother
  | blank hc _ ih => exact .blank hc ih
  | comment hinner _ ih =>
    rw [List.append_assoc]
    exact .comment hinner ih

theorem isBlank_iff {c : Char} : isBlank c = true ↔ c ∈ [' ', '\t', '\r', '\n'] := by
  simp [isBlank, or_assoc]

/-- A text at which a gap comes to its end: none can be cut off in front of it. -/
def Settled (t : Text) : Prop :=
  ∀ c rest, t = c :: rest → isBlank c = false ∧ (c = '#' → '#' ∉ rest)

theorem settled_nil : Settled [] := by
  intro c rest h
  cases h

theorem settled_cons {c : Char} (hblank : isBlank c = false) (hhash : c ≠ '#') (rest : Text) :
    Settled (c :: rest) := by
  intro d rest' h
  cases h
  exact ⟨hblank, fun h => absurd h hhash⟩

namespace Cursor

/-! ### Comments -/

theorem pastHash?_append {inner : Text} (hinner : '#' ∉ inner) (offset : Nat) (rest : Text) :
    pastHash? offset (inner ++ '#' :: rest) = some ⟨offset + inner.length + 1, rest⟩ := by
  induction inner generalizing offset with
  | nil => simp [pastHash?]
  | cons c inner ih =>
    obtain ⟨hc, hinner⟩ := List.ne_and_not_mem_of_not_mem_cons hinner
    rw [List.cons_append, pastHash?, if_neg (Ne.symm hc), ih hinner, List.length_cons]
    congr 2
    omega

theorem eq_append_of_pastHash? {offset : Nat} {t : Text} {behind : Cursor}
    (h : pastHash? offset t = some behind) :
    ∃ inner, '#' ∉ inner ∧ t = inner ++ '#' :: behind.rest ∧
      behind.offset = offset + inner.length + 1 := by
  induction t generalizing offset with
  | nil => simp [pastHash?] at h
  | cons c rest ih =>
    rw [pastHash?] at h
    split at h
    · next hc =>
      cases h
      exact ⟨[], by simp, by simp [hc], rfl⟩
    · next hc =>
      obtain ⟨inner, hinner, hrest, hoffset⟩ := ih h
      refine ⟨c :: inner, ?_, by simp [hrest], ?_⟩
      · simpa [Ne.symm hc] using hinner
      · rw [hoffset, List.length_cons]
        omega

theorem pastHash?_eq_none_iff {offset : Nat} {t : Text} :
    pastHash? offset t = none ↔ '#' ∉ t := by
  induction t generalizing offset with
  | nil => simp [pastHash?]
  | cons c rest ih =>
    rw [pastHash?]
    split
    · next hc => simp [hc]
    · next hc => simp [ih, Ne.symm hc]

/-! ### Gaps -/

theorem skipGap_of_settled {offset : Nat} {t : Text} (h : Settled t) :
    skipGap ⟨offset, t⟩ = ⟨offset, t⟩ := by
  cases t with
  | nil => rw [skipGap]
  | cons c rest =>
    obtain ⟨hblank, hhash⟩ := h c rest rfl
    rw [skipGap, if_neg (by simp [hblank])]
    split
    · next hc =>
      have hnone : pastHash? (offset + 1) rest = none := pastHash?_eq_none_iff.mpr (hhash hc)
      split
      · next behind hsome => rw [hnone] at hsome; cases hsome
      · rfl
    · rfl

/-- A gap is skipped, whatever stands behind it. -/
theorem skipGap_append {gap : Text} (h : IsGap gap) (offset : Nat) (rest : Text) :
    skipGap ⟨offset, gap ++ rest⟩ = skipGap ⟨offset + gap.length, rest⟩ := by
  induction h generalizing offset with
  | nil => simp
  | blank hc _ ih =>
    rw [List.cons_append, skipGap, if_pos (isBlank_iff.mpr hc), ih, List.length_cons]
    congr 2
    omega
  | @comment inner gap hinner _ ih =>
    have hpast := pastHash?_append hinner (offset + 1) (gap ++ rest)
    rw [List.append_assoc, List.cons_append, List.cons_append, skipGap, if_neg (by decide),
      if_pos rfl]
    split
    · next behind hsome =>
      rw [hpast] at hsome
      cases hsome
      rw [ih]
      congr 2
      simp only [List.length_append, List.length_cons]
      omega
    · next hnone => rw [hpast] at hnone; cases hnone

/-- What is skipped is a gap. -/
theorem exists_gap (c : Cursor) :
    ∃ gap, IsGap gap ∧ c.rest = gap ++ c.skipGap.rest ∧
      c.skipGap.offset = c.offset + gap.length := by
  fun_induction skipGap c with
  | case1 offset => exact ⟨[], .nil, rfl, rfl⟩
  | case2 offset x rest hblank ih =>
    obtain ⟨gap, hgap, hrest, hoffset⟩ := ih
    refine ⟨x :: gap, .blank (isBlank_iff.mp hblank) hgap, by simp [← hrest], ?_⟩
    simp only [hoffset, List.length_cons]
    omega
  | case3 offset rest behind hpast _ ih =>
    obtain ⟨gap, hgap, hrest, hoffset⟩ := ih
    obtain ⟨inner, hinner, htext, hbehind⟩ := eq_append_of_pastHash? hpast
    refine ⟨'#' :: inner ++ '#' :: gap, .comment hinner hgap, by simp [htext, ← hrest], ?_⟩
    simp only [hoffset, hbehind, List.length_append, List.length_cons]
    omega
  | case4 => exact ⟨[], .nil, rfl, rfl⟩
  | case5 => exact ⟨[], .nil, rfl, rfl⟩

/-- Where a reader comes to rest, no gap begins. -/
theorem settled_skipGap (c : Cursor) : Settled c.skipGap.rest := by
  fun_induction skipGap c with
  | case1 => exact settled_nil
  | case2 _ _ _ _ ih => exact ih
  | case3 _ _ _ _ _ ih => exact ih
  | case4 offset rest hnone hblank =>
    intro c rest' h
    cases h
    exact ⟨by simpa using hblank, fun _ => pastHash?_eq_none_iff.mp hnone⟩
  | case5 offset x rest hblank hhash =>
    intro c rest' h
    cases h
    exact ⟨by simpa using hblank, fun hc => absurd hc hhash⟩

end Cursor

end TapeCompiler
