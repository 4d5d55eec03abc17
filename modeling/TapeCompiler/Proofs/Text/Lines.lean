import TapeCompiler.Code.Generation

/-!
# Lines that end in a line break

The text of some code has a line break behind each of its lines. Cutting such a text at its line
breaks gives the lines back, and an empty piece behind the last break.

## Main definitions

* `Text.endLines` — lines, each with a line break behind it

## Main results

* `eq_of_append_cons_eq` — a list is cut at the first place of an entry in one way only
* `Code.text_eq` — the text of code is that of its ended lines
* `Text.joinLines_splitLines` — joining the lines of a text gives it back
* `Text.splitLines_endLines` — ended lines are cut apart again
-/

namespace TapeCompiler

/-- A list is cut at the first place of an entry in one way only. -/
theorem eq_of_append_cons_eq {α : Type} {a : α} {before before' behind behind' : List α}
    (hbefore : a ∉ before) (hbefore' : a ∉ before')
    (h : before ++ a :: behind = before' ++ a :: behind') :
    before = before' ∧ behind = behind' := by
  induction before generalizing before' with
  | nil =>
    cases before' with
    | nil => exact ⟨rfl, (List.cons.inj h).2⟩
    | cons b before' => exact absurd (List.cons.inj h).1 (List.ne_of_not_mem_cons hbefore')
  | cons b before ih =>
    cases before' with
    | nil => exact absurd (List.cons.inj h).1.symm (List.ne_of_not_mem_cons hbefore)
    | cons b' before' =>
      obtain ⟨rfl, hrest⟩ := List.cons.inj h
      obtain ⟨rfl, hbehind⟩ := ih (List.not_mem_of_not_mem_cons hbefore)
        (List.not_mem_of_not_mem_cons hbefore') hrest
      exact ⟨rfl, hbehind⟩

namespace Text

/-- The text of some lines, each with a line break behind it. -/
def endLines (ls : List Text) : Text :=
  ls.flatMap (· ++ ['\n'])

theorem endLines_cons (l : Text) (ls : List Text) :
    endLines (l :: ls) = l ++ '\n' :: endLines ls := by
  simp [endLines]

theorem joinLines_append_lineBreak {ls : List Text} (h : ls ≠ []) :
    joinLines ls ++ ['\n'] = endLines ls := by
  induction ls with
  | nil => exact absurd rfl h
  | cons l ls ih =>
    cases ls with
    | nil => simp [joinLines, join, endLines]
    | cons l' ls =>
      have := ih (by simp)
      simp only [joinLines, join, endLines, List.intersperse_cons_cons, List.flatten_cons,
        List.flatMap_cons, List.append_assoc] at this ⊢
      rw [this]

/-! ### Cutting a text at its line breaks -/

theorem addToLines_ne_nil (c : Char) (ls : List Text) : addToLines c ls ≠ [] := by
  cases ls with
  | nil => simp [addToLines]
  | cons l ls =>
    rw [addToLines]
    split <;> simp

theorem splitLines_ne_nil (t : Text) : splitLines t ≠ [] := by
  cases t with
  | nil => simp [splitLines]
  | cons c t => exact addToLines_ne_nil c _

theorem splitLines_lineBreak (t : Text) : splitLines ('\n' :: t) = [] :: splitLines t := by
  obtain ⟨l, ls, h⟩ := List.exists_cons_of_ne_nil (splitLines_ne_nil t)
  change addToLines '\n' (splitLines t) = _
  rw [h, addToLines, if_pos rfl]

theorem splitLines_cons {c : Char} (hc : c ≠ '\n') {t l : Text} {ls : List Text}
    (h : splitLines t = l :: ls) : splitLines (c :: t) = (c :: l) :: ls := by
  change addToLines c (splitLines t) = _
  rw [h, addToLines, if_neg hc]

/-- The piece in front of the first line break. -/
theorem splitLines_append {l : Text} (hl : '\n' ∉ l) (t : Text) :
    splitLines (l ++ '\n' :: t) = l :: splitLines t := by
  induction l with
  | nil => exact splitLines_lineBreak t
  | cons c l ih =>
    obtain ⟨hc, hl⟩ := List.ne_and_not_mem_of_not_mem_cons hl
    exact splitLines_cons (Ne.symm hc) (ih hl)

/-- What stands in front of a text without a line break belongs to its first line. -/
theorem splitLines_append_of_not_mem {front t l : Text} {ls : List Text} (hfront : '\n' ∉ front)
    (h : splitLines t = l :: ls) : splitLines (front ++ t) = (front ++ l) :: ls := by
  induction front with
  | nil => exact h
  | cons c front ih =>
    obtain ⟨hc, hfront⟩ := List.ne_and_not_mem_of_not_mem_cons hfront
    exact splitLines_cons (Ne.symm hc) (ih hfront)

/-- At a line break, the lines in front of it end, and others begin behind it. -/
theorem splitLines_append_lineBreak (t u : Text) :
    splitLines (t ++ '\n' :: u) = splitLines t ++ splitLines u := by
  induction t with
  | nil => exact splitLines_lineBreak u
  | cons c t ih =>
    obtain ⟨l, ls, h⟩ := List.exists_cons_of_ne_nil (splitLines_ne_nil t)
    by_cases hc : c = '\n'
    · rw [hc, List.cons_append, splitLines_lineBreak, splitLines_lineBreak, ih, List.cons_append]
    · rw [h, List.cons_append] at ih
      rw [List.cons_append, splitLines_cons hc ih, splitLines_cons hc h, List.cons_append]

theorem length_splitLines (t : Text) : (splitLines t).length = t.count '\n' + 1 := by
  induction t with
  | nil => rfl
  | cons c t ih =>
    obtain ⟨l, ls, h⟩ := List.exists_cons_of_ne_nil (splitLines_ne_nil t)
    by_cases hc : c = '\n'
    · rw [hc, splitLines_lineBreak, List.length_cons, ih, List.count_cons_self]
    · rw [splitLines_cons hc h, List.length_cons, ← List.length_cons, ← h, ih,
        List.count_cons_of_ne hc]

/-- Joining the lines of a text gives the text back. -/
theorem joinLines_splitLines (t : Text) : joinLines (splitLines t) = t := by
  induction t with
  | nil => rfl
  | cons c t ih =>
    obtain ⟨l, ls, h⟩ := List.exists_cons_of_ne_nil (splitLines_ne_nil t)
    rw [h] at ih
    by_cases hc : c = '\n'
    · rw [hc, splitLines_lineBreak, h, ← ih]
      simp [joinLines, join]
    · rw [splitLines_cons hc h, ← ih]
      cases ls <;> simp [joinLines, join]

theorem splitLines_injective : Function.Injective splitLines := by
  intro t u h
  rw [← joinLines_splitLines t, h, joinLines_splitLines]

theorem lineBreak_not_mem_of_mem_splitLines {t l : Text} (h : l ∈ splitLines t) : '\n' ∉ l := by
  induction t generalizing l with
  | nil =>
    rw [splitLines, List.foldr_nil, List.mem_singleton] at h
    simp [h]
  | cons c t ih =>
    obtain ⟨first, others, hsplit⟩ := List.exists_cons_of_ne_nil (splitLines_ne_nil t)
    by_cases hc : c = '\n'
    · rw [hc, splitLines_lineBreak, List.mem_cons] at h
      rcases h with rfl | h
      · simp
      · exact ih h
    · -- The character belongs to the first line of the rest.
      rw [splitLines_cons hc hsplit, List.mem_cons] at h
      rw [hsplit] at ih
      rcases h with rfl | h
      · simp [Ne.symm hc, ih List.mem_cons_self]
      · exact ih (List.mem_cons_of_mem _ h)

theorem splitLines_endLines {ls : List Text} (h : ∀ l ∈ ls, '\n' ∉ l) :
    splitLines (endLines ls) = ls ++ [[]] := by
  induction ls with
  | nil => rfl
  | cons l ls ih =>
    rw [endLines_cons, splitLines_append (h l (by simp)), ih fun l' hl' => h l' (by simp [hl']),
      List.cons_append]

end Text

theorem Code.text_eq {c : Code} (h : c.lines ≠ []) : c.text = Text.endLines c.lines :=
  Text.joinLines_append_lineBreak h

end TapeCompiler
