import TapeCompiler.Proofs.Program.Assembly
import TapeCompiler.Proofs.Source.Word
import TapeCompiler.Source.Parser

/-!
# Sources as rows of words

A source is a row of words with gaps between them. Reading on over such a row takes in what its
words stand for, whatever stands behind the row; and a source that holds a program is the row of the
tokens of that program. So the reader, which knows of no tree, and the program, which knows of no
text, meet in the row.

## Main definitions

* `IsRow` — a text is a row of words that stand for given tokens

## Main results

* `IsRow.unique` — a text is a row in at most one way
* `Reading.step_word`, `Reading.of_step_more`, `Reading.of_step_ok` — all that a step can do
* `Reading.exists_run_eq` — reading on over a row
* `Reading.isRow_of_run` — what was read successfully is a row
* `parse_eq_ok_iff` — a source holds a program if it is a row of its tokens
-/

namespace TapeCompiler

/-- A text is a row of words, with gaps in front of, between and behind them, that stand for given
tokens. -/
inductive IsRow : Text → List (Token Instruction) → Prop
  /-- A row without words. -/
  | nil {gap : Text} (hgap : IsGap gap) : IsRow gap []
  /-- A gap and a word in front of a row. -/
  | cons {gap word rest : Text} {t : Token Instruction} {ts : List (Token Instruction)}
      (hgap : IsGap gap) (hword : Spells word t) (hrest : IsRow rest ts) :
      IsRow (gap ++ (word ++ rest)) (t :: ts)

namespace IsRow

theorem gap_append {gap text : Text} {ts : List (Token Instruction)} (hgap : IsGap gap)
    (h : IsRow text ts) : IsRow (gap ++ text) ts := by
  cases h with
  | nil hgap' => exact .nil (hgap.append hgap')
  | cons hgap' hword hrest =>
    rw [← List.append_assoc]
    exact .cons (hgap.append hgap') hword hrest

theorem append {text other : Text} {ts us : List (Token Instruction)} (h : IsRow text ts)
    (hother : IsRow other us) : IsRow (text ++ other) (ts ++ us) := by
  induction h with
  | nil hgap => exact gap_append hgap hother
  | cons hgap hword _ ih =>
    rw [List.append_assoc, List.append_assoc]
    exact .cons hgap hword ih

theorem word {word : Text} {t : Token Instruction} (h : Spells word t) : IsRow word [t] := by
  simpa using IsRow.cons .nil h (.nil .nil)

/-- Every token of a row is one that can be written. -/
theorem exists_spells {text : Text} {ts : List (Token Instruction)} (h : IsRow text ts)
    {t : Token Instruction} (ht : t ∈ ts) : ∃ word, Spells word t := by
  induction h with
  | nil => cases ht
  | cons _ hword _ ih =>
    rcases List.mem_cons.mp ht with rfl | ht
    · exact ⟨_, hword⟩
    · exact ih ht

/-- A text begins with at most one gap and word: where the gap ends and which word it is can be
seen from the text. -/
theorem eq_of_gap_word {gap gap' word word' rest rest' : Text} {t t' : Token Instruction}
    (hgap : IsGap gap) (hword : Spells word t) (hgap' : IsGap gap') (hword' : Spells word' t')
    (h : gap ++ (word ++ rest) = gap' ++ (word' ++ rest')) : t = t' ∧ rest = rest' := by
  -- The reader comes to rest behind the gap and finds the word; it cannot do both in two ways.
  have hskip := Cursor.skipGap_append hgap 0 (word ++ rest)
  rw [h, Cursor.skipGap_append hgap', Cursor.skipGap_of_settled (hword.settled rest),
    Cursor.skipGap_of_settled (hword'.settled rest')] at hskip
  have hlexeme := congrArg Cursor.lexeme hskip
  rw [Cursor.lexeme_append hword, Cursor.lexeme_append hword'] at hlexeme
  rw [Cursor.Lexeme.token.injEq, Cursor.mk.injEq] at hlexeme
  exact ⟨hlexeme.1.symm, hlexeme.2.2.symm⟩

theorem ne_gap {gap gap' word rest : Text} {t : Token Instruction} (hgap : IsGap gap)
    (hgap' : IsGap gap') (hword : Spells word t) : gap ≠ gap' ++ (word ++ rest) := by
  intro h
  -- Behind a gap alone the reader finds the end, and a word is not empty.
  have hskip := Cursor.skipGap_append hgap 0 []
  rw [List.append_nil, h, Cursor.skipGap_append hgap',
    Cursor.skipGap_of_settled (hword.settled rest),
    Cursor.skipGap_of_settled settled_nil] at hskip
  have hrest := congrArg Cursor.rest hskip
  simp [hword.ne_nil] at hrest

/-- A text is a row of words in at most one way. -/
theorem unique {text : Text} {ts us : List (Token Instruction)} (h : IsRow text ts)
    (h' : IsRow text us) : ts = us := by
  induction h generalizing us with
  | nil hgap =>
    cases h' with
    | nil _ => rfl
    | cons hgap' hword' _ => exact absurd rfl (ne_gap hgap hgap' hword')
  | @cons gap word rest _ _ hgap hword _ ih =>
    -- The index of the other row has to be a variable before its cases can be told apart.
    generalize htext : gap ++ (word ++ rest) = text at h'
    cases h' with
    | nil hgap' => exact absurd htext.symm (ne_gap hgap' hgap hword)
    | cons hgap' hword' hrest' =>
      obtain ⟨rfl, rfl⟩ := eq_of_gap_word hgap hword hgap' hword' htext
      rw [ih hrest']

end IsRow

namespace Reading

/-! ### Steps -/

theorem run_of_more {r next : Reading} (h : r.step = .more next) : r.run = next.run := by
  rw [run]
  split
  · next next' h' =>
    rw [h] at h'
    cases h'
    rfl
  · next result h' =>
    rw [h] at h'
    cases h'

theorem run_of_done {r : Reading} {result : Result} (h : r.step = .done result) :
    r.run = result := by
  rw [run]
  split
  · next next' h' =>
    rw [h] at h'
    cases h'
  · next result' h' =>
    rw [h] at h'
    cases h'
    rfl

theorem run_congr {r other : Reading} (h : r.step = other.step) : r.run = other.run := by
  cases hstep : other.step with
  | more next => rw [run_of_more hstep, run_of_more (h.trans hstep)]
  | done result => rw [run_of_done hstep, run_of_done (h.trans hstep)]

/-- A gap does not matter to the reading, except for the place where it stands. -/
theorem run_gap_append {gap : Text} (hgap : IsGap gap) (offset : Nat) (rest : Text)
    (a : Assembly Nat Instruction) :
    run ⟨⟨offset, gap ++ rest⟩, a⟩ = run ⟨⟨offset + gap.length, rest⟩, a⟩ := by
  apply run_congr
  simp only [step, Cursor.skipGap_append hgap]

/-- What a step makes of a token depends on whether it can be taken in. -/
theorem step_of_token {r : Reading} {t : Token Instruction} {behind : Cursor}
    (h : r.cursor.skipGap.lexeme = .token t behind) :
    r.step = match r.assembly.place? r.cursor.skipGap.offset t with
      | some assembly => .more ⟨behind, assembly⟩
      | none => .done ⟨r.cursor.skipGap, .error ⟨.unmatchedClose, r.cursor.skipGap.offset⟩⟩ := by
  cases t with
  | leaf i => simp only [step, h, Assembly.place?]
  | opening => simp only [step, h, Assembly.place?]
  | closing =>
    cases hleave : r.assembly.leave? with
    | none => simp only [step, h, Assembly.place?, hleave]
    | some outer => simp only [step, h, Assembly.place?, hleave]

theorem step_of_none {r : Reading} (h : r.cursor.skipGap.lexeme = .none) :
    r.step = match r.assembly.finish with
      | .ok program => .done ⟨r.cursor.skipGap, .ok program⟩
      | .error offset => .done ⟨r.cursor.skipGap, .error ⟨.unterminatedLoop, offset⟩⟩ := by
  cases hfinish : r.assembly.finish with
  | ok program => simp only [step, h, hfinish]
  | error offset => simp only [step, h, hfinish]

theorem step_of_fault {r : Reading} {reason : Reason}
    (h : r.cursor.skipGap.lexeme = .fault reason) :
    r.step = .done ⟨r.cursor.skipGap, .error ⟨reason, r.cursor.skipGap.offset⟩⟩ := by
  simp only [step, h]

/-- A word is read on over if what it stands for can be taken in. -/
theorem step_word {word : Text} {t : Token Instruction} (hword : Spells word t) {offset : Nat}
    {a b : Assembly Nat Instruction} (h : a.place? offset t = some b) (rest : Text) :
    step ⟨⟨offset, word ++ rest⟩, a⟩ = .more ⟨⟨offset + word.length, rest⟩, b⟩ := by
  have hgap : Cursor.skipGap ⟨offset, word ++ rest⟩ = ⟨offset, word ++ rest⟩ :=
    Cursor.skipGap_of_settled (hword.settled rest)
  have hlexeme : (Cursor.skipGap ⟨offset, word ++ rest⟩).lexeme =
      .token t ⟨offset + word.length, rest⟩ := by
    rw [hgap, Cursor.lexeme_append hword]
  rw [step_of_token hlexeme]
  simp only [hgap, h]

/-- A step that goes on has read a gap and a word. -/
theorem of_step_more {r next : Reading} (h : r.step = .more next) :
    ∃ gap word t, IsGap gap ∧ Spells word t ∧
      r.cursor.rest = gap ++ (word ++ next.cursor.rest) ∧
      next.cursor.offset = r.cursor.offset + gap.length + word.length ∧
      r.assembly.place? (r.cursor.offset + gap.length) t = some next.assembly := by
  obtain ⟨gap, hgap, hrest, hoffset⟩ := Cursor.exists_gap r.cursor
  -- Only a token lets a step go on, and only if it can be taken in.
  cases hlexeme : r.cursor.skipGap.lexeme with
  | none =>
    rw [step_of_none hlexeme] at h
    split at h <;> cases h
  | fault reason =>
    rw [step_of_fault hlexeme] at h
    cases h
  | token t behind =>
    obtain ⟨word, hword, hword_rest, hbehind⟩ := Cursor.spells_of_lexeme hlexeme
    rw [step_of_token hlexeme] at h
    split at h
    · next assembly hplace =>
      cases h
      refine ⟨gap, word, t, hgap, hword, by rw [hrest, hword_rest], ?_, ?_⟩
      · rw [hbehind, hoffset]
      · rw [← hoffset, hplace]
    · cases h

/-- A step that ends with a program has found nothing but a gap, and no open bracket. -/
theorem of_step_ok {r : Reading} {result : Result} {program : Program}
    (h : r.step = .done result) (hok : result.outcome = .ok program) :
    IsGap r.cursor.rest ∧ r.assembly.finish = .ok program := by
  obtain ⟨gap, hgap, hrest, -⟩ := Cursor.exists_gap r.cursor
  cases hlexeme : r.cursor.skipGap.lexeme with
  | none =>
    -- Nothing is left, so all that was there is the gap.
    rw [step_of_none hlexeme] at h
    rw [Cursor.rest_of_lexeme_none hlexeme, List.append_nil] at hrest
    split at h
    · next program' hfinish =>
      cases h
      cases hok
      exact ⟨hrest ▸ hgap, hfinish⟩
    · cases h
      cases hok
  | fault reason =>
    rw [step_of_fault hlexeme] at h
    cases h
    cases hok
  | token t behind =>
    rw [step_of_token hlexeme] at h
    split at h
    · cases h
    · cases h
      cases hok

/-! ### Runs -/

/-- At the end of the source the program is finished. -/
theorem run_nil_of_finish {a : Assembly Nat Instruction} {program : Program}
    (h : a.finish = .ok program) (offset : Nat) :
    run ⟨⟨offset, []⟩, a⟩ = ⟨⟨offset, []⟩, .ok program⟩ := by
  have hgap : Cursor.skipGap ⟨offset, []⟩ = ⟨offset, []⟩ := Cursor.skipGap_of_settled settled_nil
  apply run_of_done
  rw [step_of_none]
  · simp only [h, hgap]
  · rw [hgap]
    rfl

/-- Reading on over a row takes in its tokens, whatever stands behind the row. The brackets that it
leaves open stand in it. -/
theorem exists_run_eq {text : Text} {ts : List (Token Instruction)} (h : IsRow text ts)
    {a : Assembly Nat Instruction} {b : Assembly Unit Instruction}
    (hts : a.anonymous.takeIn? ts = some b) (offset : Nat) :
    ∃ c : Assembly Nat Instruction, c.anonymous = b ∧
      (∀ frame ∈ c.frames, frame ∈ a.frames ∨ frame.bracket < offset + text.length) ∧
      ∀ rest, run ⟨⟨offset, text ++ rest⟩, a⟩ = run ⟨⟨offset + text.length, rest⟩, c⟩ := by
  induction h generalizing a offset with
  | nil hgap =>
    cases hts
    exact ⟨a, rfl, fun frame => .inl, fun rest => run_gap_append hgap offset rest a⟩
  | @cons gap word text t ts hgap hword _ ih =>
    -- The bracket is told by the place of the word, the taking in does not depend on it.
    rw [Assembly.takeIn?_cons, Assembly.token?_anonymous (offset + gap.length)] at hts
    obtain ⟨next, hnext, hts⟩ := Option.bind_eq_some_iff.mp hts
    obtain ⟨next, hplace, rfl⟩ := Option.map_eq_some_iff.mp hnext
    obtain ⟨c, hc, hbracket, hrun⟩ := ih hts (offset + gap.length + word.length)
    refine ⟨c, hc, fun frame hframe => ?_, fun rest => ?_⟩
    · have hword_pos := List.length_pos_iff.mpr hword.ne_nil
      simp only [List.length_append]
      rcases hbracket frame hframe with hnext | hlt
      · exact (Assembly.mem_frames_of_place? hplace hnext).imp_right fun heq => by omega
      · exact .inr (by omega)
    · rw [List.append_assoc, List.append_assoc, run_gap_append hgap,
        run_of_more (step_word hword hplace _), hrun]
      simp only [List.length_append, Nat.add_assoc]

/-- What was read successfully is a row, and the program is what it stands for. -/
theorem isRow_of_run {r : Reading} {program : Program} (h : r.run.outcome = .ok program) :
    ∃ ts, IsRow r.cursor.rest ts ∧ program.tokens = r.assembly.tokens ++ ts := by
  -- What holds of the run from a state is carried back over the step in front of it.
  fun_induction run r with
  | case1 r next hstep ih =>
    obtain ⟨ts, hrow, htokens⟩ := ih h
    obtain ⟨gap, word, t, hgap, hword, hrest, -, hplace⟩ := of_step_more hstep
    refine ⟨t :: ts, hrest ▸ .cons hgap hword hrow, ?_⟩
    rw [htokens, Assembly.tokens_of_place? hplace]
    simp
  | case2 r result hstep =>
    obtain ⟨hgap, hfinish⟩ := of_step_ok hstep h
    refine ⟨[], .nil hgap, ?_⟩
    rw [Assembly.tokens_of_finish hfinish, List.append_nil]

end Reading

theorem parse_eq_ok_iff_outcome {source : Text} {program : Program} :
    parse source = .ok program ↔ (Reading.ofSource source).outcome = .ok program := by
  rw [parse]
  cases (Reading.ofSource source).outcome with
  | ok other => constructor <;> intro h <;> cases h <;> rfl
  | error fault => constructor <;> intro h <;> cases h

/-- A source holds a program if it is a row of the tokens of that program. -/
theorem parse_eq_ok_iff {source : Text} {program : Program} :
    parse source = .ok program ↔ IsRow source program.tokens := by
  rw [parse_eq_ok_iff_outcome, Reading.ofSource]
  constructor
  · intro h
    obtain ⟨ts, hrow, htokens⟩ := Reading.isRow_of_run h
    have : Assembly.tokens ({} : Assembly Nat Instruction) = [] := by simp [Assembly.tokens]
    rw [Reading.start, this, List.nil_append] at htokens
    exact htokens ▸ hrow
  · intro h
    -- The tokens are taken in one by one, which leaves the program and no open bracket.
    have htakeIn := Assembly.takeIn?_tokens program ({} : Assembly Unit Instruction)
    obtain ⟨c, hc, -, hrun⟩ := Reading.exists_run_eq (a := {}) h htakeIn 0
    have hfinish : c.finish = .ok program := by
      rw [Assembly.finish_eq_ok_iff, ← Assembly.frames_anonymous_eq_nil,
        ← Assembly.anonymous_block, hc]
      simp
    have hend := hrun []
    rw [List.append_nil] at hend
    rw [Reading.start, Cursor.start, hend, Reading.run_nil_of_finish hfinish]

end TapeCompiler
