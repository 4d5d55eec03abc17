import TapeCompiler.Compile
import TapeCompiler.Proofs.Source.RoundTrip

/-!
# Sources without their gaps

The gaps of a source can be deleted without a reader: blanks and comments are left out, but between
double colons every character is kept. What is left of a source that holds a program is the printed
form of the program, and so what formatting gives.

Without its gaps, a source holds the same program. Two inserts may then be neighbours, with four
colons in a row; still each of them ends where it ended before, as none ends in a colon.

## Main definitions

* `Zone` — what a character of a source belongs to
* `Text.withoutGaps` — a source without its gaps

## Main results

* `IsRow.withoutGaps` — the words of a row are left, one behind the other
* `Text.withoutGaps_sublist` — nothing is added, and the order is kept
* `withoutGaps_of_parse` — a source without its gaps is the printed form of its program
* `format_eq_withoutGaps` — formatting deletes the gaps, and that changes nothing else
-/

namespace TapeCompiler

/-- What the characters at some place of a source belong to. -/
inductive Zone where
  /-- Commands, with gaps between them. -/
  | code
  /-- A comment. -/
  | comment
  /-- The text of an insert. -/
  | insert

/-- A text without its blanks and comments, except in inserts. -/
def Text.withoutGaps : Zone → Text → Text
  | _, [] => []
  | .code, ':' :: ':' :: rest => ':' :: ':' :: withoutGaps .insert rest
  | .insert, ':' :: ':' :: rest => ':' :: ':' :: withoutGaps .code rest
  | .insert, c :: rest => c :: withoutGaps .insert rest
  | .comment, c :: rest => withoutGaps (if c = '#' then .code else .comment) rest
  | .code, c :: rest =>
    if c = '#' then withoutGaps .comment rest
    else if isBlank c then withoutGaps .code rest
    else c :: withoutGaps .code rest

namespace Text

theorem withoutGaps_cons {c : Char} (hc : c ≠ ':') (rest : Text) :
    withoutGaps .code (c :: rest) =
      if c = '#' then withoutGaps .comment rest
      else if isBlank c then withoutGaps .code rest
      else c :: withoutGaps .code rest := by
  rw [withoutGaps]
  rintro rest' rfl
  exact absurd rfl hc

theorem withoutGaps_comment {inner : Text} (hinner : '#' ∉ inner) (rest : Text) :
    withoutGaps .comment (inner ++ '#' :: rest) = withoutGaps .code rest := by
  induction inner with
  | nil => rw [List.nil_append, withoutGaps, if_pos rfl]
  | cons c inner ih =>
    obtain ⟨hc, hinner⟩ := List.ne_and_not_mem_of_not_mem_cons hinner
    rw [List.cons_append, withoutGaps, if_neg (Ne.symm hc), ih hinner]

/-- A gap is left out, whatever stands behind it. -/
theorem withoutGaps_gap {gap : Text} (h : IsGap gap) (rest : Text) :
    withoutGaps .code (gap ++ rest) = withoutGaps .code rest := by
  induction h with
  | nil => rfl
  | @blank c gap hc _ ih =>
    have hblank : isBlank c = true := isBlank_iff.mpr hc
    have hcolon : c ≠ ':' := by rintro rfl; simp at hc
    have hhash : c ≠ '#' := by rintro rfl; simp at hc
    rw [List.cons_append, withoutGaps_cons hcolon, if_neg hhash, if_pos hblank, ih]
  | comment hinner _ ih =>
    rw [List.append_assoc, List.cons_append, withoutGaps_cons (by decide), if_pos rfl,
      List.cons_append, withoutGaps_comment hinner, ih]

theorem withoutGaps_insert {t : Text} (ht : Enclosable t) (rest : Text) :
    withoutGaps .insert (t ++ ':' :: ':' :: rest) = t ++ ':' :: ':' :: withoutGaps .code rest := by
  induction t with
  | nil => rw [List.nil_append, List.nil_append, withoutGaps]
  | cons c t ih =>
    obtain ⟨hc, ht⟩ := enclosable_cons.mp ht
    rw [List.cons_append, withoutGaps, ih ht, List.cons_append]
    -- No double colon begins here, not even with the first colon behind the text.
    rintro rest' rfl hrest
    refine hc ⟨rfl, ?_⟩
    cases t with
    | nil => rfl
    | cons d t =>
      cases hrest
      rfl

/-- A word is kept, whatever stands behind it. -/
theorem withoutGaps_word {word : Text} {t : Token Instruction} (h : Spells word t) (rest : Text) :
    withoutGaps .code (word ++ rest) = word ++ withoutGaps .code rest := by
  cases h with
  | @insert t ht =>
    simp only [List.cons_append, List.append_assoc, List.nil_append]
    rw [withoutGaps, withoutGaps_insert ht]
  | _ => exact withoutGaps_cons (by decide) rest

end Text

/-- Nothing is added, and the order is kept. -/
theorem Text.withoutGaps_sublist (zone : Zone) (t : Text) : (t.withoutGaps zone).Sublist t := by
  -- The scan keeps a character or drops it: two kept colons, a kept one, or a dropped one.
  fun_induction Text.withoutGaps zone t with
  | case1 => exact .slnil
  | case2 rest ih => exact (ih.cons_cons ':').cons_cons ':'
  | case3 rest ih => exact (ih.cons_cons ':').cons_cons ':'
  | case4 c rest _ ih => exact ih.cons_cons c
  | case5 c rest ih => exact ih.cons c
  | case6 rest _ ih => exact ih.cons '#'
  | case7 c rest _ _ _ ih => exact ih.cons c
  | case8 c rest _ _ _ ih => exact ih.cons_cons c

/-- Of a row, its words are left. -/
theorem IsRow.withoutGaps {text : Text} {ts : List (Token Instruction)} (h : IsRow text ts) :
    text.withoutGaps .code = ts.flatMap Token.text := by
  induction h with
  | @nil gap hgap => simpa [Text.withoutGaps] using Text.withoutGaps_gap hgap []
  | cons hgap hword _ ih =>
    rw [Text.withoutGaps_gap hgap, Text.withoutGaps_word hword, ih, List.flatMap_cons,
      hword.eq_text]

/-- A source without its gaps is the printed form of its program. -/
theorem withoutGaps_of_parse {source : Text} {program : Program}
    (h : parse source = .ok program) : source.withoutGaps .code = Program.text program := by
  rw [(parse_eq_ok_iff.mp h).withoutGaps, Program.text_eq_flatMap]

example : Text.withoutGaps .code "+ #a-#::# ::\t-".toList = "+::# ::-".toList := by decide

/-! ### Formatting -/

theorem format_of_parse {source : Text} {program : Program} (h : parse source = .ok program) :
    format source = .ok (Program.text program) := by
  rw [format, h, Except.map]

/-- What a source is compiled to depends on its program only. -/
theorem Settings.compile_eq_of_parse (s : Settings) {source other : Text} {program : Program}
    (h : parse source = .ok program) (h' : parse other = .ok program) :
    s.compile source = s.compile other := by
  rw [compile, compile, h, h']

/-- Formatting a source that holds a program deletes its gaps and nothing else. What is left holds
the same program, is not changed by formatting it once more, and is compiled to the same code. -/
theorem format_eq_withoutGaps {source : Text} {program : Program}
    (accepted : parse source = .ok program) :
    format source = .ok (source.withoutGaps .code) ∧
      (source.withoutGaps .code).Sublist source ∧
      parse (source.withoutGaps .code) = .ok program ∧
      format (source.withoutGaps .code) = .ok (source.withoutGaps .code) ∧
      ∀ s : Settings, s.compile (source.withoutGaps .code) = s.compile source := by
  have hsublist := Text.withoutGaps_sublist .code source
  have htext := withoutGaps_of_parse accepted
  rw [htext] at hsublist ⊢
  -- The printed form is a row of the same tokens, so it is accepted as well.
  have hagain : parse (Program.text program) = .ok program :=
    parse_eq_ok_iff.mpr (isRow_text (everyLeaf_isBare_of_parse accepted))
  exact ⟨format_of_parse accepted, hsublist, hagain, format_of_parse hagain,
    fun s => s.compile_eq_of_parse hagain accepted⟩

/-- Two inserts become neighbours when the comment between them is deleted. -/
theorem format_eq_withoutGaps_inserts :
    parse ":: a#::#-# :: #:: [\t+\n]".toList = .ok [.leaf (.insert " a#".toList),
        .leaf (.insert " #".toList), .loop [.leaf (.cell .add 1)]] ∧
      Text.withoutGaps .code ":: a#::#-# :: #:: [\t+\n]".toList = ":: a#:::: #::[+]".toList ∧
      format ":: a#::#-# :: #:: [\t+\n]".toList = .ok ":: a#:::: #::[+]".toList ∧
      parse ":: a#:::: #::[+]".toList = .ok [.leaf (.insert " a#".toList),
        .leaf (.insert " #".toList), .loop [.leaf (.cell .add 1)]] := by
  have accepted : parse ":: a#::#-# :: #:: [\t+\n]".toList = .ok [.leaf (.insert " a#".toList),
      .leaf (.insert " #".toList), .loop [.leaf (.cell .add 1)]] := by
    with_unfolding_all rfl
  have hgaps : Text.withoutGaps .code ":: a#::#-# :: #:: [\t+\n]".toList =
      ":: a#:::: #::[+]".toList := by
    decide
  obtain ⟨hformat, -, hparse, -⟩ := format_eq_withoutGaps accepted
  rw [hgaps] at hformat hparse
  exact ⟨accepted, hgaps, hformat, hparse⟩

end TapeCompiler
