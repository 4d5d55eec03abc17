import TapeCompiler.Proofs.Source.Row

/-!
# What was read before a fault

While a source is read, the text in front of the cursor is a row of the tokens that were taken in,
and the text in front of each bracket that is still open is a row of those that were taken in before
it. One step keeps this, so it holds when the reading ends. A fault is reported at the end of such
a row: only closing brackets are missing there, as many as there are open ones, and none if the
fault is a bracket without a partner.

## Main definitions

* `Reading.Follows` — what is known of a source while it is read
* `Reading.Stumbles` — a fault, and where the reading stood when it was found
* `Assembly.closed` — the program that comes of closing all open brackets

## Main results

* `Reading.Follows.step`, `Reading.Follows.exists_done` — what a step and a run keep
* `Reading.stumbles_of_step` — all faults that a step can find
* `exists_parse_take_of_error` — the text in front of a fault
-/

namespace TapeCompiler

/-! ### Closing brackets -/

namespace Assembly

variable {ι α : Type}

/-- The program that comes of closing all open brackets. -/
def closed (a : Assembly ι α) : Block α :=
  (a.frames.foldl (fun block frame => .loop block.reverse :: frame.before) a.block).reverse

theorem closed_of_leave? {a b : Assembly ι α} (h : a.leave? = some b) : a.closed = b.closed := by
  obtain ⟨block, frames⟩ := a
  cases frames with
  | nil => cases h
  | cons frame frames =>
    cases h
    rfl

/-- With a closing bracket for each of the open ones, the tokens are those of a program. -/
theorem tokens_append_closing (a : Assembly ι α) :
    a.tokens ++ List.replicate a.frames.length .closing = a.closed.tokens := by
  obtain ⟨block, frames⟩ := a
  induction frames generalizing block with
  | nil => simp [tokens, closed]
  | cons frame frames ih =>
    have hleave : leave? ⟨block, frame :: frames⟩ =
        some ⟨.loop block.reverse :: frame.before, frames⟩ := rfl
    rw [closed_of_leave? hleave, ← ih, tokens_of_leave? hleave, List.length_cons,
      List.replicate_succ, List.append_assoc, List.singleton_append]

end Assembly

theorem IsRow.replicate_closing (n : Nat) :
    IsRow (List.replicate n ']') (List.replicate n .closing) := by
  induction n with
  | zero => exact .nil .nil
  | succ n ih =>
    rw [List.replicate_succ, List.replicate_succ]
    exact .cons .nil .closing ih

/-- A row of the tokens taken in so far becomes a program when the open brackets are closed. -/
theorem IsRow.parse_append_closing {ι : Type} {text : Text} {a : Assembly ι Instruction}
    (h : IsRow text a.tokens) :
    parse (text ++ List.replicate a.frames.length ']') = .ok a.closed := by
  rw [parse_eq_ok_iff, ← a.tokens_append_closing]
  exact h.append (.replicate_closing _)

namespace Reading

/-! ### While a source is read -/

/-- What is known of a source while it is read. -/
structure Follows (source : Text) (r : Reading) : Prop where
  /-- The cursor stands in the source. -/
  offset_le : r.cursor.offset ≤ source.length
  /-- Behind the cursor stands the rest of the source. -/
  rest_eq : r.cursor.rest = source.drop r.cursor.offset
  /-- The text in front of the cursor is a row of the tokens taken in. -/
  row : IsRow (source.take r.cursor.offset) r.assembly.tokens
  /-- At the place of an open bracket there is one, and the text in front of it is a row of the
  tokens taken in before it. -/
  bracket : ∀ frame outer, frame :: outer <:+ r.assembly.frames →
    source[frame.bracket]? = some '[' ∧
      IsRow (source.take frame.bracket) (Assembly.tokens ⟨frame.before, outer⟩)

theorem follows_start (source : Text) : Follows source (start source) where
  offset_le := Nat.zero_le _
  rest_eq := rfl
  row := by
    have hrow : IsRow [] [] := .nil .nil
    simpa [start, Cursor.start, Assembly.tokens] using hrow
  bracket := by
    intro frame outer h
    simp [start] at h

namespace Follows

variable {source : Text} {r : Reading}

/-- The part of the source up to some characters behind the cursor. -/
theorem take_eq (h : Follows source r) {front rest : Text} (hrest : r.cursor.rest = front ++ rest) :
    source.take (r.cursor.offset + front.length) = source.take r.cursor.offset ++ front := by
  rw [List.take_add, ← h.rest_eq, hrest, List.take_left]

theorem drop_eq (h : Follows source r) {front rest : Text} (hrest : r.cursor.rest = front ++ rest) :
    source.drop (r.cursor.offset + front.length) = rest := by
  rw [← List.drop_drop, ← h.rest_eq, hrest, List.drop_left]

theorem length_le (h : Follows source r) {front rest : Text}
    (hrest : r.cursor.rest = front ++ rest) :
    r.cursor.offset + front.length ≤ source.length := by
  have hlength := congrArg List.length hrest
  have hoffset := h.offset_le
  rw [h.rest_eq, List.length_drop, List.length_append] at hlength
  omega

theorem getElem?_eq (h : Follows source r) {front rest : Text} {c : Char}
    (hrest : r.cursor.rest = front ++ c :: rest) :
    source[r.cursor.offset + front.length]? = some c := by
  rw [← List.head?_drop, h.drop_eq hrest, List.head?_cons]

/-- The text in front of what follows a gap is still a row of the same tokens. -/
theorem row_gap (h : Follows source r) {gap rest : Text} (hgap : IsGap gap)
    (hrest : r.cursor.rest = gap ++ rest) :
    IsRow (source.take (r.cursor.offset + gap.length)) r.assembly.tokens := by
  rw [h.take_eq hrest]
  simpa using h.row.append (.nil hgap)

/-- A step adds a gap and a word to the text in front of the cursor. -/
theorem take_step (h : Follows source r) {next : Reading} {gap word : Text}
    (hrest : r.cursor.rest = gap ++ (word ++ next.cursor.rest))
    (hoffset : next.cursor.offset = r.cursor.offset + gap.length + word.length) :
    source.take next.cursor.offset = source.take r.cursor.offset ++ (gap ++ word) := by
  rw [← List.append_assoc] at hrest
  rw [hoffset, Nat.add_assoc, ← List.length_append, h.take_eq hrest]

/-- A step keeps what is known of the source. -/
theorem step (h : Follows source r) {next : Reading} (hstep : r.step = .more next) :
    Follows source next := by
  obtain ⟨gap, word, t, hgap, hword, hrest, hoffset, hplace⟩ := of_step_more hstep
  have hfront : r.cursor.rest = (gap ++ word) ++ next.cursor.rest := by
    rw [hrest, List.append_assoc]
  have hlength : next.cursor.offset = r.cursor.offset + (gap ++ word).length := by
    rw [hoffset, List.length_append, Nat.add_assoc]
  refine ⟨?_, ?_, ?_, ?_⟩
  · rw [hlength]
    exact h.length_le hfront
  · rw [hlength, h.drop_eq hfront]
  · have hword_row : IsRow (gap ++ word) [t] := IsRow.gap_append hgap (.word hword)
    rw [h.take_step hrest hoffset, Assembly.tokens_of_place? hplace]
    exact h.row.append hword_row
  · intro frame outer hsuffix
    -- A bracket was open before, or it is the one that was read, behind all that was taken in.
    rcases Assembly.suffix_frames_of_place? hplace hsuffix with hsuffix | ⟨rfl, heq⟩
    · exact h.bracket frame outer hsuffix
    · cases heq
      cases hword
      exact ⟨h.getElem?_eq hrest, h.row_gap hgap hrest⟩

/-- When the reading ends, it has read the source up to there. -/
theorem exists_done (h : Follows source r) :
    ∃ last, Follows source last ∧ last.step = .done r.run := by
  fun_induction run r with
  | case1 r next hstep ih => exact ih (h.step hstep)
  | case2 r result hstep => exact ⟨r, h, hstep⟩

end Follows

/-! ### Faults -/

/-- A fault that ends a reading, with what stands behind the gap at the cursor. -/
inductive Stumbles (r : Reading) : Fault → Prop
  /-- A closing bracket, and no bracket is open. -/
  | unmatchedClose {gap rest : Text} (hgap : IsGap gap) (hrest : r.cursor.rest = gap ++ ']' :: rest)
      (hframes : r.assembly.frames = []) :
      Stumbles r ⟨.unmatchedClose, r.cursor.offset + gap.length⟩
  /-- A double colon behind which there is no other. -/
  | unterminatedInsert {gap rest : Text} (hgap : IsGap gap)
      (hrest : r.cursor.rest = gap ++ ':' :: ':' :: rest) (hcolons : ¬ [':', ':'] <:+: rest) :
      Stumbles r ⟨.unterminatedInsert, r.cursor.offset + gap.length⟩
  /-- A `#` behind which there is no other. -/
  | unterminatedComment {gap rest : Text} (hgap : IsGap gap)
      (hrest : r.cursor.rest = gap ++ '#' :: rest) (hhash : '#' ∉ rest) :
      Stumbles r ⟨.unterminatedComment, r.cursor.offset + gap.length⟩
  /-- A character with which neither a gap nor a word begins. -/
  | unexpected {gap rest : Text} {c : Char} (hgap : IsGap gap)
      (hrest : r.cursor.rest = gap ++ c :: rest) (hblank : isBlank c = false)
      (hc : c ∉ ['>', '<', '+', '-', ',', '.', '[', ']', '#'])
      (hcolons : ¬ (c = ':' ∧ rest.head? = some ':')) :
      Stumbles r ⟨.unexpected c, r.cursor.offset + gap.length⟩
  /-- The end of the source, and a bracket is open. -/
  | unterminatedLoop {frame : Frame Nat Instruction} (hgap : IsGap r.cursor.rest)
      (hframes : r.assembly.frames.getLast? = some frame) :
      Stumbles r ⟨.unterminatedLoop, frame.bracket⟩

theorem getLast?_of_finish {ι α : Type} {a : Assembly ι α} {bracket : ι}
    (h : a.finish = .error bracket) :
    ∃ frame, a.frames.getLast? = some frame ∧ frame.bracket = bracket := by
  rw [Assembly.finish] at h
  split at h
  · cases h
  · next frame hlast =>
    cases h
    exact ⟨frame, hlast, rfl⟩

/-- All the faults that a step can find. -/
theorem stumbles_of_step {r : Reading} {result : Result} {fault : Fault}
    (h : r.step = .done result) (herror : result.outcome = .error fault) : Stumbles r fault := by
  obtain ⟨gap, hgap, hrest, hoffset⟩ := Cursor.exists_gap r.cursor
  have hsettled := Cursor.settled_skipGap r.cursor
  have hfinds := Cursor.finds_lexeme r.cursor.skipGap
  generalize hc : r.cursor.skipGap = c at hrest hoffset hsettled hfinds
  generalize hlexeme : c.lexeme = lexeme at hfinds
  rw [← hc] at hlexeme
  cases hfinds with
  | none =>
    rw [step_of_none hlexeme] at h
    split at h
    · cases h
      cases herror
    · next bracket hfinish =>
      cases h
      cases herror
      obtain ⟨frame, hlast, rfl⟩ := getLast?_of_finish hfinish
      refine .unterminatedLoop ?_ hlast
      rw [hrest]
      simpa using hgap
  | @word offset word rest t hword =>
    rw [step_of_token hlexeme] at h
    split at h
    · cases h
    · next hplace =>
      cases h
      cases herror
      -- Only a closing bracket can fail to be taken in.
      cases t with
      | leaf i => cases hplace
      | opening => cases hplace
      | closing =>
        cases hword
        have hframes : r.assembly.frames = [] := by
          have hleave : r.assembly.leave? = none := hplace
          rw [Assembly.leave?] at hleave
          split at hleave
          · next hframes => exact hframes
          · cases hleave
        rw [hc, hoffset]
        exact .unmatchedClose hgap hrest hframes
  | unterminatedInsert hcolons =>
    rw [step_of_fault hlexeme] at h
    cases h
    cases herror
    rw [hc, hoffset]
    exact .unterminatedInsert hgap hrest hcolons
  | unterminatedComment =>
    rw [step_of_fault hlexeme] at h
    cases h
    cases herror
    rw [hc, hoffset]
    exact .unterminatedComment hgap hrest ((hsettled _ _ rfl).2 rfl)
  | unexpected hx hcolons =>
    rw [step_of_fault hlexeme] at h
    cases h
    cases herror
    rw [hc, hoffset]
    exact .unexpected hgap hrest (hsettled _ _ rfl).1 hx hcolons

/-- A fault lies in the source, and the text in front of it is a row of tokens that were taken in.
If the fault is a bracket without a partner, no bracket is open there. -/
theorem Follows.exists_row {source : Text} {r : Reading} {fault : Fault} (h : Follows source r)
    (hfault : Stumbles r fault) :
    fault.offset < source.length ∧
      ∃ a : Assembly Nat Instruction, IsRow (source.take fault.offset) a.tokens ∧
        (fault.reason = .unmatchedClose ∨ fault.reason = .unterminatedLoop → a.frames = []) := by
  cases hfault with
  | unmatchedClose hgap hrest hframes =>
    exact ⟨(List.getElem?_eq_some_iff.mp (h.getElem?_eq hrest)).1, _, h.row_gap hgap hrest,
      fun _ => hframes⟩
  | unterminatedInsert hgap hrest _ =>
    exact ⟨(List.getElem?_eq_some_iff.mp (h.getElem?_eq hrest)).1, _, h.row_gap hgap hrest, by simp⟩
  | unterminatedComment hgap hrest _ =>
    exact ⟨(List.getElem?_eq_some_iff.mp (h.getElem?_eq hrest)).1, _, h.row_gap hgap hrest, by simp⟩
  | unexpected hgap hrest _ _ _ =>
    exact ⟨(List.getElem?_eq_some_iff.mp (h.getElem?_eq hrest)).1, _, h.row_gap hgap hrest, by simp⟩
  | @unterminatedLoop frame _ hlast =>
    -- The outermost bracket: no bracket around it was open when it was taken in.
    obtain ⟨inner, hframes⟩ := List.getLast?_eq_some_iff.mp hlast
    obtain ⟨hbracket, hrow⟩ := h.bracket frame [] ⟨inner, hframes.symm⟩
    exact ⟨(List.getElem?_eq_some_iff.mp hbracket).1, _, hrow, fun _ => rfl⟩

end Reading

theorem outcome_of_parse_error {source : Text} {e : SyntaxError}
    (rejected : parse source = .error e) :
    (Reading.ofSource source).outcome = .error e.toFault ∧ e.source = source := by
  rw [parse] at rejected
  cases houtcome : (Reading.ofSource source).outcome with
  | ok program =>
    rw [houtcome] at rejected
    cases rejected
  | error fault =>
    rw [houtcome] at rejected
    cases rejected
    exact ⟨rfl, rfl⟩

/-- A rejected source was read up to a fault. -/
theorem exists_stumbles_of_error {source : Text} {e : SyntaxError}
    (rejected : parse source = .error e) :
    ∃ r, Reading.Follows source r ∧ Reading.Stumbles r e.toFault := by
  obtain ⟨r, hfollows, hdone⟩ := (Reading.follows_start source).exists_done
  exact ⟨r, hfollows, Reading.stumbles_of_step hdone (outcome_of_parse_error rejected).1⟩

/-- An unexpected character is the first one that was not consumed. -/
theorem SyntaxError.mem_remaining {source : Text} {e : SyntaxError}
    (rejected : parse source = .error e) {c : Char} (hreason : e.reason = .unexpected c) :
    c ∈ e.remaining := by
  obtain ⟨r, hfollows, hfault⟩ := exists_stumbles_of_error rejected
  obtain ⟨⟨reason, offset⟩, text⟩ := e
  obtain rfl : text = source := (outcome_of_parse_error rejected).2
  obtain rfl : reason = .unexpected c := hreason
  cases hfault with
  | unexpected hgap hrest _ _ _ =>
    rw [SyntaxError.remaining, hfollows.drop_eq hrest]
    exact List.mem_cons_self

/-- The place of a fault lies in the source, and the text in front of it is accepted with some
closing brackets behind it. If a bracket has no partner, it is accepted as it stands. -/
theorem exists_parse_take_of_error {source : Text} {e : SyntaxError}
    (rejected : parse source = .error e) :
    e.offset < source.length ∧
      (∃ n program, parse (source.take e.offset ++ List.replicate n ']') = .ok program) ∧
      (e.reason = .unmatchedClose ∨ e.reason = .unterminatedLoop →
        ∃ program, parse (source.take e.offset) = .ok program) := by
  obtain ⟨r, hfollows, hfault⟩ := exists_stumbles_of_error rejected
  obtain ⟨hoffset, a, hrow, hframes⟩ := hfollows.exists_row hfault
  have hclosed := hrow.parse_append_closing
  refine ⟨hoffset, ⟨_, _, hclosed⟩, fun hbracket => ⟨a.closed, ?_⟩⟩
  rw [hframes hbracket] at hclosed
  simpa using hclosed

/-- In front of the colon two loops are open, and in front of the outermost loop that is not closed
there is none. -/
theorem exists_parse_take_of_error_loops :
    (parse "[+#]#[-:".toList = .error ⟨⟨.unexpected ':', 7⟩, "[+#]#[-:".toList⟩ ∧
      ∃ n program, parse ("[+#]#[-".toList ++ List.replicate n ']') = .ok program) ∧
    parse ".[[-]".toList = .error ⟨⟨.unterminatedLoop, 1⟩, ".[[-]".toList⟩ ∧
      ∃ program, parse ['.'] = .ok program := by
  have hcolon : parse "[+#]#[-:".toList = .error ⟨⟨.unexpected ':', 7⟩, "[+#]#[-:".toList⟩ := by
    with_unfolding_all rfl
  have hloop : parse ".[[-]".toList = .error ⟨⟨.unterminatedLoop, 1⟩, ".[[-]".toList⟩ := by
    with_unfolding_all rfl
  exact ⟨⟨hcolon, (exists_parse_take_of_error hcolon).2.1⟩,
    hloop, (exists_parse_take_of_error hloop).2.2 (.inr rfl)⟩

end TapeCompiler
