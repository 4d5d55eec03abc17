import TapeCompiler.Proofs.Source.Beginning
import TapeCompiler.Proofs.Text.Lines
import TapeCompiler.Proofs.Text.Numeral

/-!
# Lines and columns of syntax errors

A syntax error tells its place twice: by an offset, and by a line and a column. The line is found by
counting the line breaks in front of the offset, and the column by searching for the last of them.
The two searches know nothing of each other. Still line and column together are an address: the
offset can be computed from them, so no other place of the source has the same.

Both follow from what stands in front of the offset. Either there is no line break, or there is a
last one, and then the column counts what stands behind it. This also holds beyond the end of the
source, where all places belong to its last line.

Line and column are part of the wording, so there is an error only for a place at which both can be
written. This fails only so far beyond the end that the offset itself is nearly too large.

## Main definitions

* `Text.throughLineBreak` — a text up to one of its line breaks
* `Position.Before` — a position comes before another, line by line

## Main results

* `Position.ofOffset_of_not_mem`, `Position.ofOffset_of_take_eq` — the two cases
* `Position.offset_add_one` — the offset that belongs to a line and a column
* `Position.exists_line` — the line in which a position stands
* `Position.before_ofOffset_iff` — a later offset has a later position
* `SyntaxError.ofFault?_eq_some_iff` — for which faults there is an error
* `SyntaxError.position_isAddress` — all of this for the place of a syntax error
-/

namespace TapeCompiler

/-- The part of a text up to its `n`-th line break, with that line break. -/
def Text.throughLineBreak : Nat → Text → Text
  | 0, _ => []
  | _ + 1, [] => []
  | n + 1, c :: rest => c :: throughLineBreak (if c = '\n' then n else n + 1) rest

namespace Text

theorem throughLineBreak_zero (t : Text) : throughLineBreak 0 t = [] := by
  cases t <;> rfl

theorem throughLineBreak_append (before rest : Text) :
    throughLineBreak (before.count '\n' + 1) (before ++ '\n' :: rest) = before ++ ['\n'] := by
  induction before with
  | nil => simp [throughLineBreak]
  | cons c before ih =>
    rw [List.cons_append, throughLineBreak, List.cons_append]
    by_cases hc : c = '\n'
    · rw [if_pos hc, hc, List.count_cons_self, ih]
    · rw [if_neg hc, List.count_cons_of_ne hc, ih]

/-- In a text there is no line break, or there is a last one. -/
theorem not_mem_or_exists_last_lineBreak (t : Text) :
    '\n' ∉ t ∨ ∃ before line, t = before ++ '\n' :: line ∧ '\n' ∉ line := by
  by_cases h : '\n' ∈ t
  · -- The last line break is the first one that is met from behind.
    obtain ⟨line, before, hreverse, hline⟩ := List.eq_append_cons_of_mem (List.mem_reverse.mpr h)
    refine .inr ⟨before.reverse, line.reverse, ?_, by simpa using hline⟩
    rw [← List.reverse_reverse t, hreverse]
    simp
  · exact .inl h

end Text

namespace Position

/-- A position comes before another: in an earlier line, or earlier in the same line. -/
def Before (p q : Position) : Prop :=
  p.line < q.line ∨ p.line = q.line ∧ p.column < q.column

/-! ### In front of an offset -/

/-- The last line of a text ends with all that stands behind a line break. -/
theorem lastLine_append_of_not_mem {line : Text} (h : '\n' ∉ line) (before : Text) :
    lastLine (before ++ line) = lastLine before ++ line := by
  have hline : ∀ c ∈ line.reverse, decide (c ≠ '\n') = true := by
    intro c hc
    rw [List.mem_reverse] at hc
    simpa using ne_of_mem_of_not_mem hc h
  rw [lastLine, List.reverse_append, List.takeWhile_append_of_pos hline, List.reverse_append,
    List.reverse_reverse, lastLine]

theorem lastLine_lineBreak (before : Text) : lastLine (before ++ ['\n']) = [] := by
  simp [lastLine]

variable {t : Text} {offset : Nat}

/-- Without a line break in front of it, an offset belongs to the first line. -/
theorem ofOffset_of_not_mem (h : '\n' ∉ t.take offset) : ofOffset t offset = ⟨1, offset + 1⟩ := by
  have hline : lastLine (t.take offset) = t.take offset := lastLine_append_of_not_mem h []
  rw [ofOffset, hline, List.count_eq_zero_of_not_mem h, Nat.sub_self, Nat.sub_zero]

/-- The empty text has one line, which goes on. -/
theorem ofOffset_nil (offset : Nat) : ofOffset [] offset = ⟨1, offset + 1⟩ :=
  ofOffset_of_not_mem (by rw [List.take_nil]; exact List.not_mem_nil)

theorem length_lt_of_take_eq {before line : Text} (h : t.take offset = before ++ '\n' :: line) :
    before.length + line.length < offset := by
  have hle := List.length_take_le offset t
  rw [h, List.length_append, List.length_cons] at hle
  omega

/-- The column of an offset counts from the last line break in front of it. -/
theorem ofOffset_of_take_eq {before line : Text} (h : t.take offset = before ++ '\n' :: line)
    (hline : '\n' ∉ line) :
    ofOffset t offset = ⟨before.count '\n' + 2, offset - before.length⟩ := by
  have hlength := length_lt_of_take_eq h
  have hcount : (before ++ '\n' :: line).count '\n' = before.count '\n' + 1 := by
    rw [List.count_append, List.count_cons_self, List.count_eq_zero_of_not_mem hline]
  have hlast : lastLine (before ++ '\n' :: line) = line := by
    rw [List.append_cons, lastLine_append_of_not_mem hline, lastLine_lineBreak, List.nil_append]
  rw [ofOffset, h, hlast, hcount, mk.injEq]
  refine ⟨rfl, ?_⟩
  rw [List.length_append, List.length_cons]
  omega

/-- A text is what stands in front of the last line break before an offset, that line break, and
what stands behind it. -/
theorem eq_append_of_take_eq {before line : Text} (h : t.take offset = before ++ '\n' :: line) :
    t = before ++ '\n' :: (line ++ t.drop offset) := by
  rw [← List.cons_append, ← List.append_assoc, ← h, List.take_append_drop]

/-! ### Addresses -/

/-- The offset that belongs to a line and a column: the lines in front are passed over, and then the
columns in front. -/
theorem offset_add_one (t : Text) (offset : Nat) :
    offset + 1 = (t.throughLineBreak ((ofOffset t offset).line - 1)).length +
      (ofOffset t offset).column := by
  rcases Text.not_mem_or_exists_last_lineBreak (t.take offset) with h | ⟨before, line, h, hline⟩
  · rw [ofOffset_of_not_mem h]
    simp [Text.throughLineBreak_zero]
  · have hlength := length_lt_of_take_eq h
    have hthrough : t.throughLineBreak (before.count '\n' + 1) = before ++ ['\n'] := by
      rw [eq_append_of_take_eq h, Text.throughLineBreak_append]
    rw [ofOffset_of_take_eq h hline]
    simp only [Nat.add_one_sub_one, hthrough, List.length_append, List.length_singleton]
    omega

/-- The column is not greater than the number of characters in front, counted from one. -/
theorem column_le_offset_add_one (t : Text) (offset : Nat) :
    (ofOffset t offset).column ≤ offset + 1 := by
  have hoffset := offset_add_one t offset
  omega

/-- Neither is the line. -/
theorem line_le_offset_add_one (t : Text) (offset : Nat) :
    (ofOffset t offset).line ≤ offset + 1 :=
  Nat.succ_le_succ (Nat.le_trans List.count_le_length (List.length_take_le offset t))

theorem line_pos (t : Text) (offset : Nat) : 0 < (ofOffset t offset).line :=
  Nat.succ_pos _

theorem column_pos (t : Text) (offset : Nat) : 0 < (ofOffset t offset).column :=
  Nat.succ_pos _

/-- There are as many line breaks as there are lines in front of a position. -/
theorem line_sub_one_le (t : Text) (offset : Nat) :
    (ofOffset t offset).line - 1 ≤ t.count '\n' :=
  (List.take_sublist offset t).count_le '\n'

/-- Within the text, a position stands in its line or right behind it. -/
theorem exists_line (h : offset ≤ t.length) :
    ∃ piece, t.splitLines[(ofOffset t offset).line - 1]? = some piece ∧
      (ofOffset t offset).column - 1 ≤ piece.length := by
  have hlength : (t.take offset).length = offset := List.length_take_of_le h
  -- What stands behind the offset and still belongs to the line is not known, and not needed.
  obtain ⟨first, others, hrest⟩ :=
    List.exists_cons_of_ne_nil (Text.splitLines_ne_nil (t.drop offset))
  rcases Text.not_mem_or_exists_last_lineBreak (t.take offset) with
    hmem | ⟨before, line, htake, hline⟩
  · have hsplit := Text.splitLines_append_of_not_mem hmem hrest
    rw [List.take_append_drop] at hsplit
    rw [ofOffset_of_not_mem hmem]
    refine ⟨t.take offset ++ first, by rw [hsplit]; rfl, ?_⟩
    simp only [Nat.add_sub_cancel, List.length_append, hlength]
    omega
  · have hsplit : Text.splitLines t = Text.splitLines before ++ (line ++ first) :: others := by
      rw [eq_append_of_take_eq htake, Text.splitLines_append_lineBreak,
        Text.splitLines_append_of_not_mem hline hrest]
    rw [ofOffset_of_take_eq htake hline]
    refine ⟨line ++ first, ?_, ?_⟩
    · have hplace : before.count '\n' + 1 = (Text.splitLines before).length :=
        (Text.length_splitLines before).symm
      simp [hsplit, hplace]
    · rw [htake, List.length_append, List.length_cons] at hlength
      simp only [List.length_append]
      omega

/-! ### The order of positions -/

theorem line_le_line {m n : Nat} (h : m ≤ n) : (ofOffset t m).line ≤ (ofOffset t n).line :=
  Nat.succ_le_succ ((List.take_prefix_take_left h).sublist.count_le '\n')

/-- A later offset has a later position, and no other has. -/
theorem before_ofOffset_iff (t : Text) (m n : Nat) :
    (ofOffset t m).Before (ofOffset t n) ↔ m < n := by
  have hm := offset_add_one t m
  have hn := offset_add_one t n
  constructor
  · intro h
    -- The lines are in the order of the offsets, and within a line the columns are.
    rcases h with hline | ⟨hline, hcolumn⟩
    · apply Nat.lt_of_not_le
      intro hle
      exact Nat.not_le_of_lt hline (line_le_line hle)
    · rw [hline] at hm
      omega
  · intro h
    have hle : (ofOffset t m).line ≤ (ofOffset t n).line := line_le_line (Nat.le_of_lt h)
    rcases Nat.lt_or_eq_of_le hle with hline | hline
    · exact .inl hline
    · rw [hline] at hm
      exact .inr ⟨hline, by omega⟩

/-- Two offsets of a text never have the same position. -/
theorem ofOffset_injective (t : Text) : Function.Injective (ofOffset t) := by
  intro m n h
  have hm := offset_add_one t m
  have hn := offset_add_one t n
  rw [h] at hm
  omega

end Position

/-! ### Places that can be written -/

theorem isWritablePlace_natCast {line column : Nat} :
    isWritablePlace line column = true ↔
      line < Numeral.tooLarge ∧ column < Numeral.tooLarge := by
  rw [isWritablePlace, decide_eq_true_iff, Int.natAbs_natCast, Int.natAbs_natCast]

namespace SyntaxError

variable {source : Text} {fault : Fault}

/-- There is an error for a fault if its line and its column are not too large. -/
theorem ofFault?_eq_some_iff {e : SyntaxError} :
    ofFault? source fault = some e ↔
      e = ⟨fault, source⟩ ∧
        e.position.line < Numeral.tooLarge ∧ e.position.column < Numeral.tooLarge := by
  rw [ofFault?, ← isWritablePlace_natCast]
  constructor
  · intro h
    obtain ⟨hwritable, he⟩ := Option.ite_none_right_eq_some.mp h
    obtain rfl := Option.some.inj he
    exact ⟨rfl, hwritable⟩
  · rintro ⟨rfl, hwritable⟩
    exact if_pos hwritable

/-- There is an error for every fault whose offset is not nearly too large. -/
theorem ofFault?_of_lt (h : fault.offset + 1 < Numeral.tooLarge) :
    ofFault? source fault = some ⟨fault, source⟩ :=
  ofFault?_eq_some_iff.mpr ⟨rfl,
    Nat.lt_of_le_of_lt (Position.line_le_offset_add_one source fault.offset) h,
    Nat.lt_of_le_of_lt (Position.column_le_offset_add_one source fault.offset) h⟩

end SyntaxError

/-- There is a syntax error for every fault of which line and column can be written, so for every
offset that is not nearly too large, and for every source that is rejected and not too long.

The line and the column of a syntax error are an address: behind the lines in front, the column
counts up to the offset, and as long as the offset is not beyond the end, this is within the line.
Of two offsets in the same source the later one has the later position. So no other offset than the
one that is reported has the position that is reported. -/
theorem SyntaxError.position_isAddress :
    (∀ source fault e, ofFault? source fault = some e ↔ e = ⟨fault, source⟩ ∧
      e.position.line < Numeral.tooLarge ∧ e.position.column < Numeral.tooLarge) ∧
    (∀ source fault, fault.offset + 1 < Numeral.tooLarge →
      ofFault? source fault = some ⟨fault, source⟩) ∧
    (∀ e : SyntaxError,
      e.offset = (e.source.throughLineBreak (e.position.line - 1)).length + e.position.column - 1 ∧
      0 < e.position.line ∧ e.position.line - 1 ≤ e.source.count '\n' ∧ 0 < e.position.column ∧
      (e.offset ≤ e.source.length → ∃ line, e.source.splitLines[e.position.line - 1]? = some line ∧
        e.position.column - 1 ≤ line.length)) ∧
    (∀ e e' : SyntaxError, e.source = e'.source →
      (e.position = e'.position ↔ e.offset = e'.offset) ∧
      (e.position.Before e'.position ↔ e.offset < e'.offset)) ∧
    ∀ source e, parse source = .error e →
      (source.length < Numeral.tooLarge → ofFault? source e.toFault = some e) ∧
      ∀ offset, Position.ofOffset source offset = e.position ↔ offset = e.offset := by
  refine ⟨fun source fault e => ofFault?_eq_some_iff, fun source fault => ofFault?_of_lt,
    fun e => ?_, fun e e' hsource => ?_, fun source e rejected => ?_⟩
  · refine ⟨?_, Position.line_pos _ _, Position.line_sub_one_le _ _, Position.column_pos _ _,
      Position.exists_line⟩
    rw [position, ← Position.offset_add_one, Nat.add_sub_cancel]
  · rw [position, position, hsource, Position.before_ofOffset_iff]
    exact ⟨(Position.ofOffset_injective _).eq_iff, Iff.rfl⟩
  · -- The error carries the source that was read, so its position is one of that source.
    have hsource : e.source = source := (outcome_of_parse_error rejected).2
    refine ⟨fun hlength => ?_, fun offset => ?_⟩
    · obtain ⟨r, hfollows, hfault⟩ := exists_stumbles_of_error rejected
      have hoffset := (hfollows.exists_row hfault).1
      rw [ofFault?_of_lt (Nat.lt_of_le_of_lt hoffset hlength), ← hsource]
    · rw [position, hsource]
      exact (Position.ofOffset_injective source).eq_iff

/-- The comment that is not closed begins in the third line, behind an empty one. Behind the end of
the source, the columns go on. -/
theorem SyntaxError.position_isAddress_comment :
    ∃ source : Text, source = "+\n\n #.".toList ∧
      ∃ e, parse source = .error e ∧ e = ⟨⟨.unterminatedComment, 4⟩, source⟩ ∧
        e.position = ⟨3, 2⟩ ∧ ofFault? source e.toFault = some e ∧
        ofFault? source ⟨.unterminatedInsert, 9⟩ = some ⟨⟨.unterminatedInsert, 9⟩, source⟩ ∧
        (∃ line, source.splitLines[2]? = some line ∧ 1 ≤ line.length) ∧
        (∀ offset, Position.ofOffset source offset = ⟨3, 2⟩ ↔ offset = 4) ∧
        (Position.ofOffset source 9).Before (Position.ofOffset source 10) := by
  let source : Text := "+\n\n #.".toList
  let e : SyntaxError := ⟨⟨.unterminatedComment, 4⟩, source⟩
  have rejected : parse source = .error e := by with_unfolding_all rfl
  have hposition : e.position = ⟨3, 2⟩ := by decide
  obtain ⟨-, hraised, haddress, horder, hreported⟩ := position_isAddress
  obtain ⟨-, -, -, -, hline⟩ := haddress e
  obtain ⟨hmade, hread⟩ := hreported source e rejected
  rw [hposition] at hline hread
  refine ⟨source, rfl, e, rejected, rfl, hposition, hmade (by decide +kernel),
    hraised source ⟨.unterminatedInsert, 9⟩ (by decide +kernel), hline (by decide), hread, ?_⟩
  exact (horder ⟨⟨.unmatchedClose, 9⟩, source⟩ ⟨⟨.unmatchedClose, 10⟩, source⟩ rfl).2.mpr
    (by decide)

/-- Beyond the end of the empty source, the last offset that can be written is in a column that
cannot be. -/
theorem SyntaxError.not_forall_position_isAddress :
    ¬ ∀ (source : Text) (fault : Fault), ∃ e, ofFault? source fault = some e ∧
      fault.offset =
        (source.throughLineBreak (e.position.line - 1)).length + e.position.column - 1 := by
  intro h
  obtain ⟨e, he, -⟩ := h [] ⟨.unterminatedInsert, Numeral.tooLarge - 1⟩
  obtain ⟨rfl, -, hcolumn⟩ := ofFault?_eq_some_iff.mp he
  rw [position, Position.ofOffset_nil] at hcolumn
  have hsmall : Numeral.tooLarge - 1 + 1 < Numeral.tooLarge := hcolumn
  have hpos := Numeral.tooLarge_pos
  omega

end TapeCompiler
