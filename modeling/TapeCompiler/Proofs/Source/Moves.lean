import Mathlib.Order.Bounds.Basic
import TapeCompiler.Proofs.Source.Position
import TapeCompiler.Source.Reader

/-!
# Moving by hand

A reader can be sent to any offset of a source, also to one beyond the end, and be moved from there
over a gap or over an insert. Where it comes to can be told from the source alone.

Over a gap it moves as far as a gap goes: from its offset on, no longer part of the source is one.
What stands there is no blank and begins no comment that is closed, so a second move leads nowhere.

Over an insert it moves behind a double colon, the first that stands two characters on or later;
what these two characters are is not asked. The text up to there holds no double colon, and none is
completed by the one behind it. As the search ends there, nothing that is put behind the source can
change its result. If there is no such double colon, the reader stays where it is, and reports the
place if its line and its column can be written.

## Main definitions

* `Text.doubleColons` — the places of the double colons from a given one on
* `Reader.ofOffset` — the reader of a source at an offset
* `Reader.after` — the reader after a row of steps

## Main results

* `Cursor.exists_skipGap`, `Cursor.le_offset_skipGap_of_isGap` — what is skipped is a gap, and the
  longest
* `Cursor.untilDoubleColon?_of_isLeast`, `Text.doubleColons_eq_empty_iff` — the search for a double
  colon finds the first
* `Reader.Place.insert_of_isLeast` — an insert from any offset, also from one that counts from the
  end
* `Reader.exists_step_of_isMove`, `Reader.exists_after_of_isMove` — what a move and all moves keep
* `Reader.step_skipGap_isGreatest`, `Reader.step_insert_isLeast` — all about the two moves
-/

namespace TapeCompiler

/-! ### Parts of a text -/

namespace Text

variable {t front rest : Text} {i : Nat}

theorem extract_of_drop_eq (h : t.drop i = front ++ rest) :
    t.extract i (i + front.length) = front := by
  rw [List.extract_eq_take_drop, Nat.add_sub_cancel_left, h, List.take_left]

theorem drop_of_drop_eq (h : t.drop i = front ++ rest) : t.drop (i + front.length) = rest := by
  rw [← List.drop_drop, h, List.drop_left]

theorem drop_eq_extract_append {k : Nat} (hik : i ≤ k) (t : Text) :
    t.drop i = t.extract i k ++ t.drop k := by
  obtain ⟨n, rfl⟩ := Nat.exists_eq_add_of_le hik
  rw [List.extract_eq_take_drop, Nat.add_sub_cancel_left, ← List.drop_drop, List.take_append_drop]

end Text

/-! ### Gaps in a source -/

namespace Cursor

/-- A reader does not move back over a gap. -/
theorem le_offset_skipGap (c : Cursor) : c.offset ≤ c.skipGap.offset := by
  obtain ⟨gap, -, -, hoffset⟩ := exists_gap c
  omega

/-- What is skipped is the part of the text between two offsets, and a gap. Beyond the end nothing
is skipped. -/
theorem exists_skipGap (t : Text) (i : Nat) :
    ∃ j, (ofOffset t i).skipGap = ofOffset t j ∧ i ≤ j ∧ j ≤ max i t.length ∧
      IsGap (t.extract i j) := by
  obtain ⟨gap, hgap, hrest, hoffset⟩ := exists_gap (ofOffset t i)
  rw [rest_ofOffset] at hrest
  rw [offset_ofOffset] at hoffset
  refine ⟨i + gap.length, ?_, Nat.le_add_right i _, ?_, ?_⟩
  · rw [ofOffset.eq_def t (i + gap.length), Text.drop_of_drop_eq hrest, ← hoffset]
  · have hlength := congrArg List.length hrest
    rw [List.length_drop, List.length_append] at hlength
    omega
  · rw [Text.extract_of_drop_eq hrest]
    exact hgap

/-- A gap that begins at an offset ends where the reader comes to, or before. -/
theorem le_offset_skipGap_of_isGap {t : Text} {i k : Nat} (hk : k ≤ t.length)
    (hgap : IsGap (t.extract i k)) : k ≤ (ofOffset t i).skipGap.offset := by
  rcases Nat.le_total k i with hki | hik
  · exact hki.trans (le_offset_skipGap (ofOffset t i))
  · have hlength : i + (t.extract i k).length = k := by
      simp only [List.extract_eq_take_drop, List.length_take, List.length_drop]
      omega
    -- The gap is skipped first, so the reader comes to the same place from behind it.
    have hskip : (ofOffset t i).skipGap = (ofOffset t k).skipGap := by
      rw [ofOffset, Text.drop_eq_extract_append hik t, skipGap_append hgap, hlength, ofOffset]
    rw [hskip]
    exact le_offset_skipGap (ofOffset t k)

end Cursor

/-- Where no gap begins, there is the end, a character of another kind, or a comment that is not
closed. -/
theorem Settled.of_drop {t : Text} {j : Nat} (h : Settled (t.drop j)) :
    t.length ≤ j ∨ (∃ c, t[j]? = some c ∧ c ∉ [' ', '\t', '\r', '\n', '#']) ∨
      t[j]? = some '#' ∧ '#' ∉ t.drop (j + 1) := by
  rcases Nat.lt_or_ge j t.length with hj | hj
  · obtain ⟨hblank, hcomment⟩ := h _ _ (List.drop_eq_getElem_cons hj)
    have hchar : t[j]? = some t[j] := List.getElem?_eq_getElem hj
    by_cases hhash : t[j] = '#'
    · exact .inr (.inr ⟨hhash ▸ hchar, hcomment hhash⟩)
    · refine .inr (.inl ⟨t[j], hchar, ?_⟩)
      have hkind : t[j] ∉ [' ', '\t', '\r', '\n'] ++ ['#'] := by
        rw [List.mem_append, ← isBlank_iff, hblank, List.mem_singleton]
        simp [hhash]
      exact hkind
  · exact .inl hj

/-! ### Double colons in a source -/

/-- The places of the double colons in a text from a given place on. -/
def Text.doubleColons (t : Text) (start : Nat) : Set Nat :=
  {e | start ≤ e ∧ [':', ':'] <+: t.drop e}

/-- In a text that can stand between double colons no double colon begins, also if a colon stands
behind it. -/
theorem Enclosable.not_prefix_drop {u : Text} (h : Enclosable u) (rest : Text) {k : Nat}
    (hk : k < u.length) : ¬ [':', ':'] <+: (u ++ ':' :: rest).drop k := by
  induction u generalizing k with
  | nil => exact absurd hk (Nat.not_lt_zero k)
  | cons c u ih =>
    obtain ⟨hc, hu⟩ := enclosable_cons.mp h
    cases k with
    | zero =>
      rw [List.drop_zero, List.cons_append, doubleColon_prefix_cons, head?_append_colon]
      exact hc
    | succ k => exact ih hu (Nat.lt_of_succ_lt_succ hk)

namespace Text

variable {t : Text} {start : Nat}

/-- There is a double colon from a place on if the text from there on holds one. -/
theorem doubleColons_nonempty_iff :
    (t.doubleColons start).Nonempty ↔ [':', ':'] <:+: t.drop start := by
  constructor
  · rintro ⟨e, hstart, hcolons⟩
    rw [drop_eq_extract_append hstart]
    exact hcolons.isInfix.trans (List.suffix_append _ _).isInfix
  · rintro ⟨before, behind, htext⟩
    refine ⟨start + before.length, Nat.le_add_right start _, behind, ?_⟩
    rw [List.append_assoc] at htext
    rw [drop_of_drop_eq htext.symm]

/-- The search finds nothing if there is no double colon from its beginning on. -/
theorem doubleColons_eq_empty_iff :
    t.doubleColons start = ∅ ↔ Cursor.untilDoubleColon? [] start (t.drop start) = none := by
  rw [Cursor.untilDoubleColon?_eq_none_iff, ← doubleColons_nonempty_iff,
    Set.not_nonempty_iff_eq_empty]

/-- Within a text, the double colons are the same whatever stands behind the text. -/
theorem doubleColon_prefix_drop_append {e : Nat} (h : e + 2 ≤ t.length) (suffix : Text) :
    [':', ':'] <+: (t ++ suffix).drop e ↔ [':', ':'] <+: t.drop e := by
  rw [List.drop_append_of_le_length (by omega)]
  constructor
  · intro hcolons
    refine List.prefix_of_prefix_length_le hcolons (List.prefix_append _ _) ?_
    simp only [List.length_drop, List.length_cons, List.length_nil]
    omega
  · intro hcolons
    exact hcolons.trans (List.prefix_append _ _)

/-- The first double colon is the first one whatever stands behind the text. -/
theorem isLeast_doubleColons_append {e : Nat} (h : IsLeast (t.doubleColons start) e)
    (hlength : e + 2 ≤ t.length) (suffix : Text) :
    IsLeast ((t ++ suffix).doubleColons start) e := by
  obtain ⟨⟨hstart, hcolons⟩, hfirst⟩ := h
  refine ⟨⟨hstart, (doubleColon_prefix_drop_append hlength suffix).mpr hcolons⟩, ?_⟩
  rintro e' ⟨hstart', hcolons'⟩
  by_contra hlt
  have hwithin := (doubleColon_prefix_drop_append (by omega) suffix).mp hcolons'
  exact hlt (hfirst ⟨hstart', hwithin⟩)

theorem extract_append {e : Nat} (h : e ≤ t.length) (suffix : Text) :
    (t ++ suffix).extract start e = t.extract start e := by
  rcases Nat.le_total e start with hle | hle
  · simp [List.extract_eq_take_drop, Nat.sub_eq_zero_of_le hle]
  · rw [List.extract_eq_take_drop, List.extract_eq_take_drop,
      List.drop_append_of_le_length (hle.trans h), List.take_append_of_le_length]
    rw [List.length_drop]
    omega

end Text

namespace Cursor

variable {t u : Text} {start e : Nat} {behind : Cursor}

/-- The search ends at a text that can stand between double colons, and at the first of the double
colons. -/
theorem exists_isLeast_of_untilDoubleColon?
    (h : untilDoubleColon? [] start (t.drop start) = some (u, behind)) :
    ∃ e, IsLeast (t.doubleColons start) e ∧ u = t.extract start e ∧
      behind = ofOffset t (e + 2) ∧ e + 2 ≤ t.length ∧ Enclosable u := by
  obtain ⟨u', hu, hinner, htext, hoffset⟩ := enclosable_of_untilDoubleColon? h
  obtain rfl : u = u' := by simpa using hinner
  have hcolons := Text.drop_of_drop_eq htext
  have hrest : t.drop (start + u.length + 2) = behind.rest := by
    rw [← List.drop_drop, hcolons]
    rfl
  have hlength := congrArg List.length hcolons
  refine ⟨start + u.length, ⟨⟨Nat.le_add_right start _, behind.rest, hcolons.symm⟩, ?_⟩,
    (Text.extract_of_drop_eq htext).symm, ?_, ?_, hu⟩
  · rintro e ⟨hstart, hfirst⟩
    obtain ⟨n, rfl⟩ := Nat.exists_eq_add_of_le hstart
    rw [← List.drop_drop, htext] at hfirst
    by_contra hlt
    exact hu.not_prefix_drop _ (by omega) hfirst
  · rw [ofOffset, hrest, ← hoffset]
  · simp only [List.length_drop, List.length_cons] at hlength
    omega

/-- The search finds the first double colon. -/
theorem untilDoubleColon?_of_isLeast (h : IsLeast (t.doubleColons start) e) :
    untilDoubleColon? [] start (t.drop start) = some (t.extract start e, ofOffset t (e + 2)) ∧
      e + 2 ≤ t.length ∧ Enclosable (t.extract start e) := by
  cases hsearch : untilDoubleColon? [] start (t.drop start) with
  | none => exact absurd (Text.doubleColons_eq_empty_iff.mpr hsearch) h.nonempty.ne_empty
  | some found =>
    obtain ⟨e', he', hu, hbehind, hlength, henclosable⟩ :=
      exists_isLeast_of_untilDoubleColon? hsearch
    obtain rfl := h.unique he'
    exact ⟨congrArg some (Prod.ext hu hbehind), hlength, hu ▸ henclosable⟩

theorem insert?_ofOffset (t : Text) (i : Nat) :
    (ofOffset t i).insert? = untilDoubleColon? [] (i + 2) (t.drop (i + 2)) := by
  rw [insert?, offset_ofOffset, rest_ofOffset, List.drop_drop]

end Cursor

/-- From a place on there is no double colon, or there is a first one. -/
theorem Text.doubleColons_eq_empty_or_exists_isLeast (t : Text) (start : Nat) :
    t.doubleColons start = ∅ ∨ ∃ e, IsLeast (t.doubleColons start) e := by
  cases hsearch : Cursor.untilDoubleColon? [] start (t.drop start) with
  | none => exact .inl (Text.doubleColons_eq_empty_iff.mpr hsearch)
  | some found =>
    obtain ⟨e, he, -⟩ := Cursor.exists_isLeast_of_untilDoubleColon? hsearch
    exact .inr ⟨e, he⟩

/-! ### Readers -/

namespace Reader

/-- The reader of a source at an offset. -/
def ofOffset (source : Text) (offset : Nat) : Reader :=
  (load source).seek offset

namespace Place

theorem before_natCast (source : Text) (i : Nat) : before ⟨source, i⟩ = i := by
  rw [before, if_pos (Int.natCast_nonneg i), Int.toNat_natCast]

theorem check_natCast (source : Text) (i : Nat) : check ⟨source, i⟩ = .ok () := by
  have hreach : ¬ (i : Int) < minOffset := by
    rw [minOffset]
    omega
  have hrange : ¬ (i : Int) < -source.length := by omega
  rw [check, if_neg hreach, if_neg hrange]

theorem cursor_natCast (source : Text) (i : Nat) : cursor ⟨source, i⟩ = .ofOffset source i := by
  rw [cursor, before_natCast]

theorem line_natCast (source : Text) (i : Nat) :
    line ⟨source, i⟩ = (Position.ofOffset source i).line := by
  rw [line, before_natCast]

theorem column_natCast (source : Text) (i : Nat) :
    column ⟨source, i⟩ = (Position.ofOffset source i).column := by
  rw [column, before_natCast, Int.sub_self, Int.add_zero]

theorem skipGap_natCast (source : Text) (i : Nat) :
    skipGap ⟨source, i⟩ = .ok ((Cursor.ofOffset source i).skipGap.offset : Int) := by
  rw [skipGap, if_pos (Int.natCast_nonneg i), cursor_natCast]
  rfl

/-- The place behind the two characters with which an insert opens. -/
def inner (p : Place) : Place :=
  { p with offset := p.offset + 2 }

theorem before_inner_natCast (source : Text) (i : Nat) : (inner ⟨source, i⟩).before = i + 2 :=
  before_natCast source (i + 2)

theorem insert_eq (p : Place) :
    p.insert =
      match Cursor.untilDoubleColon? [] p.inner.before (p.source.drop p.inner.before) with
      | some (text, behind) => .ok (text, behind.offset)
      | none => .error (if isWritablePlace p.line p.column then .unterminated p else .unwritable) :=
  rfl

/-- An insert reaches from the place behind its opening to the first double colon from there on. -/
theorem insert_of_isLeast {p : Place} {e : Nat}
    (h : IsLeast (p.source.doubleColons p.inner.before) e) :
    p.insert = .ok (p.source.extract p.inner.before e, ((e + 2 : Nat) : Int)) := by
  obtain ⟨hsearch, -, -⟩ := Cursor.untilDoubleColon?_of_isLeast h
  rw [insert_eq, hsearch]
  rfl

/-- Without a double colon from there on, there is no insert. -/
theorem insert_of_eq_empty {p : Place} (h : p.source.doubleColons p.inner.before = ∅) :
    p.insert =
      .error (if isWritablePlace p.line p.column then .unterminated p else .unwritable) := by
  rw [insert_eq, Text.doubleColons_eq_empty_iff.mp h]

end Place

/-- An insert that is not closed is reported in the same words as by the reading of a source. -/
theorem Fault.message_unterminated (source : Text) (i : Nat) :
    message (.unterminated ⟨source, i⟩) =
      SyntaxError.message ⟨⟨.unterminatedInsert, i⟩, source⟩ := by
  let place : Place := ⟨source, i⟩
  have hmessage : message (.unterminated place) =
      Reason.unterminatedInsert.messageAt place.line place.column place.cursor.rest := rfl
  rw [hmessage, Place.line_natCast, Place.column_natCast, Place.cursor_natCast,
    Cursor.rest_ofOffset, SyntaxError.message, SyntaxError.position, SyntaxError.remaining]

/-! ### Steps -/

/-- A reader goes over a gap as its place tells. -/
theorem skipGap_seek (source : Text) (offset : Int) :
    ((load source).seek offset).skipGap =
      (Place.skipGap ⟨source, offset⟩).map fun next => (load source).seek next := by
  have hplace : ((load source).seek offset).place = .ok ⟨source, offset⟩ := rfl
  rw [skipGap, hplace]
  change Except.bind (Place.skipGap ⟨source, offset⟩) _ = _
  cases Place.skipGap ⟨source, offset⟩ <;> rfl

/-- A reader goes over an insert as its place tells. -/
theorem insert_seek (source : Text) (offset : Int) :
    ((load source).seek offset).insert =
      (Place.insert ⟨source, offset⟩).map fun found =>
        (found.1, (load source).seek found.2) := by
  have hplace : ((load source).seek offset).place = .ok ⟨source, offset⟩ := rfl
  rw [insert, hplace]
  change Except.bind (Place.insert ⟨source, offset⟩) _ = _
  cases Place.insert ⟨source, offset⟩ <;> rfl

section Offset

variable {source : Text} {i : Nat}

theorem step_skipGap_of_eq {j : Nat} (h : (Cursor.ofOffset source i).skipGap = .ofOffset source j) :
    (ofOffset source i).step .skipGap = (ofOffset source j, .done) := by
  rw [ofOffset, step, skipGap_seek, Place.skipGap_natCast, h, Cursor.offset_ofOffset]
  rfl

theorem step_peek (source : Text) (i : Nat) :
    (ofOffset source i).step .peek = (ofOffset source i, .char source[i]?) := by
  have hpeek : (ofOffset source i).peek = .ok source[i]? := by
    change Place.peek ⟨source, i⟩ = _
    rw [Place.peek, Place.check_natCast, Place.cursor_natCast, Cursor.rest_ofOffset,
      List.head?_drop]
    rfl
  rw [step, hpeek]

theorem step_insert_of_isLeast {e : Nat} (h : IsLeast (source.doubleColons (i + 2)) e) :
    (ofOffset source i).step .insert =
      (ofOffset source (e + 2), .inserted (source.extract (i + 2) e)) := by
  rw [← Place.before_inner_natCast source i] at h ⊢
  rw [ofOffset, step, insert_seek, Place.insert_of_isLeast h]
  rfl

/-- Without a double colon, the reader stays where it is. -/
theorem step_insert_of_eq_empty (h : source.doubleColons (i + 2) = ∅) :
    (ofOffset source i).step .insert =
      (ofOffset source i,
        .fault (if isWritablePlace (Place.line ⟨source, i⟩) (Place.column ⟨source, i⟩) then
          .unterminated ⟨source, i⟩ else .unwritable)) := by
  rw [← Place.before_inner_natCast source i] at h
  rw [ofOffset, step, insert_seek, Place.insert_of_eq_empty h]
  rfl

/-- An insert that is not closed is reported with its place, if line and column can be written. -/
theorem step_insert_of_lt (h : source.doubleColons (i + 2) = ∅)
    (hline : (Position.ofOffset source i).line < Numeral.tooLarge)
    (hcolumn : (Position.ofOffset source i).column < Numeral.tooLarge) :
    (ofOffset source i).step .insert =
      (ofOffset source i, .fault (.unterminated ⟨source, i⟩)) := by
  rw [step_insert_of_eq_empty h, Place.line_natCast, Place.column_natCast,
    if_pos (isWritablePlace_natCast.mpr ⟨hline, hcolumn⟩)]

/-- Otherwise its place is not reported. -/
theorem step_insert_of_le (h : source.doubleColons (i + 2) = ∅)
    (hlarge : Numeral.tooLarge ≤ (Position.ofOffset source i).line ∨
      Numeral.tooLarge ≤ (Position.ofOffset source i).column) :
    (ofOffset source i).step .insert = (ofOffset source i, .fault .unwritable) := by
  rw [step_insert_of_eq_empty h, Place.line_natCast, Place.column_natCast, if_neg]
  rw [isWritablePlace_natCast]
  omega

end Offset

/-! ### Many moves -/

/-- The steps that need a source and an offset. -/
def Step.IsMove : Step → Prop
  | .skipGap => True
  | .peek => True
  | .insert => True
  | _ => False

/-- The reader after a row of steps. -/
def after (r : Reader) (steps : List Step) : Reader :=
  steps.foldl (fun r s => (r.step s).1) r

/-- A move keeps the source. It never leads back, and never beyond the end of the source. -/
theorem exists_step_of_isMove (source : Text) (i : Nat) {s : Step} (h : s.IsMove) :
    ∃ j, i ≤ j ∧ j ≤ max i source.length ∧ ((ofOffset source i).step s).1 = ofOffset source j := by
  cases s with
  | load source' => exact h.elim
  | seek offset => exact h.elim
  | parse source' => exact h.elim
  | peek => exact ⟨i, Nat.le_refl i, Nat.le_max_left i _, congrArg Prod.fst (step_peek source i)⟩
  | skipGap =>
    obtain ⟨j, hskip, hij, hj, -⟩ := Cursor.exists_skipGap source i
    exact ⟨j, hij, hj, congrArg Prod.fst (step_skipGap_of_eq hskip)⟩
  | insert =>
    rcases Text.doubleColons_eq_empty_or_exists_isLeast source (i + 2) with hnone | ⟨e, hfirst⟩
    · exact ⟨i, Nat.le_refl i, Nat.le_max_left i _,
        congrArg Prod.fst (step_insert_of_eq_empty hnone)⟩
    · obtain ⟨-, hlength, -⟩ := Cursor.untilDoubleColon?_of_isLeast hfirst
      have hstart : i + 2 ≤ e := hfirst.1.1
      exact ⟨e + 2, by omega, by omega, congrArg Prod.fst (step_insert_of_isLeast hfirst)⟩

/-- However often a reader is moved, it keeps its source, does not come back, and stays within the
source if it was there. -/
theorem exists_after_of_isMove (source : Text) (i : Nat) {steps : List Step}
    (h : ∀ s ∈ steps, s.IsMove) :
    ∃ j, i ≤ j ∧ j ≤ max i source.length ∧ (ofOffset source i).after steps = ofOffset source j := by
  induction steps generalizing i with
  | nil => exact ⟨i, Nat.le_refl i, Nat.le_max_left i _, rfl⟩
  | cons s steps ih =>
    obtain ⟨hs, hsteps⟩ := List.forall_mem_cons.mp h
    obtain ⟨j, hij, hj, hstep⟩ := exists_step_of_isMove source i hs
    obtain ⟨k, hjk, hk, hafter⟩ := ih j hsteps
    refine ⟨k, hij.trans hjk, by omega, ?_⟩
    rw [after, List.foldl_cons, hstep]
    exact hafter

/-! ### The two moves -/

/-- From any offset, also from one beyond the end, a reader moves over the longest gap that begins
there. Behind it there is the end, a character of another kind, or a comment that is not closed, and
from there the reader does not move again. -/
theorem step_skipGap_isGreatest (source : Text) (i : Nat) :
    ∃ j, (ofOffset source i).step .skipGap = (ofOffset source j, .done) ∧
      (Cursor.ofOffset source i).skipGap = .ofOffset source j ∧
      i ≤ j ∧ IsGap (source.extract i j) ∧
      (source.length ≤ j ∨ (∃ c, source[j]? = some c ∧ c ∉ [' ', '\t', '\r', '\n', '#']) ∨
        source[j]? = some '#' ∧ '#' ∉ source.drop (j + 1)) ∧
      (i ≤ source.length ∧ IsGreatest {k | k ≤ source.length ∧ IsGap (source.extract i k)} j ∨
        source.length < i ∧ j = i) ∧
      (ofOffset source j).step .skipGap = (ofOffset source j, .done) := by
  obtain ⟨j, hskip, hij, hj, hgap⟩ := Cursor.exists_skipGap source i
  have hsettled : Settled (source.drop j) := by
    have h := Cursor.settled_skipGap (Cursor.ofOffset source i)
    rwa [hskip] at h
  have hagain : (Cursor.ofOffset source j).skipGap = .ofOffset source j :=
    Cursor.skipGap_of_settled hsettled
  refine ⟨j, step_skipGap_of_eq hskip, hskip, hij, hgap, hsettled.of_drop, ?_,
    step_skipGap_of_eq hagain⟩
  rcases Nat.lt_or_ge source.length i with hi | hi
  · exact .inr ⟨hi, by omega⟩
  · refine .inl ⟨hi, ⟨by omega, hgap⟩, ?_⟩
    rintro k ⟨hk, hkgap⟩
    have hle := Cursor.le_offset_skipGap_of_isGap hk hkgap
    rwa [hskip] at hle

/-- The comments share no `#`, and the last one is not closed. -/
example : (Cursor.start "## \t#a# #+".toList).skipGap = .ofOffset "## \t#a# #+".toList 8 := by cbv

/-- From any offset, also from one beyond the end and whatever stands there, a reader moves over an
insert if there is a double colon at least two characters on. Then it comes behind the first of
these, and the text of the insert, which begins two characters on, ends there. Nothing that is put
behind the source changes this. Otherwise the reader stays where it is, and reports the offset at
which it is if the line and the column of this offset can be written. -/
theorem step_insert_isLeast (source : Text) (i : Nat) :
    ((∃ text, ((ofOffset source i).step .insert).2 = .inserted text) ↔
      ∃ e, i + 2 ≤ e ∧ [':', ':'] <+: source.drop e) ∧
    ((∃ e text, IsLeast (source.doubleColons (i + 2)) e ∧ text = source.extract (i + 2) e ∧
        (ofOffset source i).step .insert = (ofOffset source (e + 2), .inserted text) ∧
        (Cursor.ofOffset source i).insert? = some (text, .ofOffset source (e + 2)) ∧
        ¬ [':', ':'] <:+: text ∧ ¬ [':'] <:+ text ∧ e + 2 ≤ source.length ∧
        ∀ suffix, (ofOffset (source ++ suffix) i).step .insert =
          (ofOffset (source ++ suffix) (e + 2), .inserted text)) ∨
      source.doubleColons (i + 2) = ∅ ∧ (Cursor.ofOffset source i).insert? = none ∧
        ((Position.ofOffset source i).line < Numeral.tooLarge ∧
            (Position.ofOffset source i).column < Numeral.tooLarge ∧
            (ofOffset source i).step .insert =
              (ofOffset source i, .fault (.unterminated ⟨source, i⟩)) ∧
            (Fault.unterminated ⟨source, i⟩).message =
              SyntaxError.message ⟨⟨.unterminatedInsert, i⟩, source⟩ ∨
          (Numeral.tooLarge ≤ (Position.ofOffset source i).line ∨
              Numeral.tooLarge ≤ (Position.ofOffset source i).column) ∧
            (ofOffset source i).step .insert = (ofOffset source i, .fault .unwritable))) := by
  rcases Text.doubleColons_eq_empty_or_exists_isLeast source (i + 2) with hnone | ⟨e, hfirst⟩
  · have hstep := step_insert_of_eq_empty hnone
    refine ⟨iff_of_false ?_ (Set.not_nonempty_iff_eq_empty.mpr hnone), .inr ⟨hnone, ?_, ?_⟩⟩
    · simp [hstep]
    · rw [Cursor.insert?_ofOffset, Text.doubleColons_eq_empty_iff.mp hnone]
    · by_cases hplace : (Position.ofOffset source i).line < Numeral.tooLarge ∧
          (Position.ofOffset source i).column < Numeral.tooLarge
      · exact .inl ⟨hplace.1, hplace.2, step_insert_of_lt hnone hplace.1 hplace.2,
          Fault.message_unterminated source i⟩
      · have hlarge : Numeral.tooLarge ≤ (Position.ofOffset source i).line ∨
            Numeral.tooLarge ≤ (Position.ofOffset source i).column := by omega
        exact .inr ⟨hlarge, step_insert_of_le hnone hlarge⟩
  · obtain ⟨hsearch, hlength, henclosable⟩ := Cursor.untilDoubleColon?_of_isLeast hfirst
    obtain ⟨hcolons, hcolon⟩ := enclosable_iff.mp henclosable
    have hstep := step_insert_of_isLeast hfirst
    refine ⟨iff_of_true ⟨_, congrArg Prod.snd hstep⟩ ⟨e, hfirst.1⟩,
      .inl ⟨e, _, hfirst, rfl, hstep, ?_, hcolons, hcolon, hlength, fun suffix => ?_⟩⟩
    · rw [Cursor.insert?_ofOffset, hsearch]
    · rw [step_insert_of_isLeast (Text.isLeast_doubleColons_append hfirst hlength suffix),
        Text.extract_append (by omega)]

/-- Behind the end of the empty source, no double colon is found from the last offset that can be
written, and its column cannot be. -/
theorem not_forall_step_insert_isLeast :
    ¬ ∀ (source : Text) (i : Nat), (¬ ∃ e, i + 2 ≤ e ∧ [':', ':'] <+: source.drop e) →
      (ofOffset source i).step .insert =
        (ofOffset source i, .fault (.unterminated ⟨source, i⟩)) := by
  intro h
  have hnone : ¬ ∃ e, Numeral.tooLarge - 1 + 2 ≤ e ∧ [':', ':'] <+: ([] : Text).drop e := by
    simp
  have hlarge : Numeral.tooLarge ≤ (Position.ofOffset [] (Numeral.tooLarge - 1)).column := by
    rw [Position.ofOffset_nil]
    exact Nat.le_add_of_sub_le (Nat.le_refl _)
  have hstep := step_insert_of_le (Set.not_nonempty_iff_eq_empty.mp hnone) (.inr hlarge)
  rw [h [] _ hnone] at hstep
  cases hstep

/-- The two double colons share no colon, and the second is the first that is left. -/
example : Cursor.insert? (.start ":::".toList) = none ∧
    Cursor.insert? (.start ":::::".toList) = some ([], .ofOffset ":::::".toList 4) := by decide

end Reader

end TapeCompiler
