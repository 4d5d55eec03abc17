import TapeCompiler.Proofs.Source.Beginning
import TapeCompiler.Proofs.Source.Gapless
import TapeCompiler.Proofs.Source.Order

/-!
# How far the reading has come

The reader goes through a source in iterations. In each of them it moves forward, so a source has at
most one iteration more than characters.

At the top of an iteration, the place of the cursor and the program so far tell of each other. The
words in front of the cursor are the tokens that were taken in. An open bracket stands where it was
met, behind those around it, and the words have no partner for it; of every other opening bracket
they have the partner. If what is kept behind the open brackets is printed, with the brackets and
with the innermost block, the text in front of the cursor comes out, without its gaps.

## Main definitions

* `Reading.iteration?` — the state at the top of an iteration
* `Reading.Tracks` — what is known of the words in front of the cursor

## Main results

* `Assembly.loopAt_or_exists_frame`, `Assembly.closing?_of_suffix` — the open brackets are those
  without a partner
* `Reading.Tracks.step`, `Reading.exists_tracks` — what an iteration and all of them keep
* `Reading.exists_last_iteration` — the iterations come to an end
* `Reading.iteration_invariant` — all together
-/

namespace TapeCompiler

/-! ### Brackets without a partner -/

/-- If a row has no partner for a loop, and none is added, there is still none. -/
theorem Brackets.inner?_append_eq_none {β : Type} {b : Brackets β} {depth : Nat} {row more : List β}
    (h : b.inner? depth row = none) (hmore : ∀ depth, b.inner? depth more = none) :
    b.inner? depth (row ++ more) = none := by
  -- The search passes the row at one depth after another, and may arrive behind it at any of them.
  induction row generalizing depth with
  | nil => exact hmore depth
  | cons x rest ih =>
    rw [List.cons_append, inner?]
    rw [inner?] at h
    split_ifs at h ⊢
    · rw [ih (Option.map_eq_none_iff.mp h), Option.map_none]
    · rw [ih (Option.map_eq_none_iff.mp h), Option.map_none]
    · rw [ih (Option.map_eq_none_iff.mp h), Option.map_none]

/-- In the tokens of a block, no bracket closes a loop from outside. -/
theorem Block.inner?_tokens {α : Type} (block : Block α) (depth : Nat) :
    Token.brackets.inner? depth block.tokens = none := by
  have h := block.inner?_tokens_append depth []
  rw [List.append_nil] at h
  rw [h, Brackets.inner?, Option.map_none]

namespace Assembly

variable {ι α : Type}

theorem tokens_cons (block : List (Node α)) (frame : Frame ι α) (frames : List (Frame ι α)) :
    tokens ⟨block, frame :: frames⟩ =
      tokens ⟨frame.before, frames⟩ ++ .opening :: Block.tokens block.reverse := by
  simp [tokens]

/-- Behind an open bracket there is no partner for it, however many loops are opened first. -/
theorem exists_tokens_eq_of_suffix {a : Assembly ι α} {frame : Frame ι α}
    {outer : List (Frame ι α)} (h : frame :: outer <:+ a.frames) :
    ∃ more, a.tokens = tokens ⟨frame.before, outer⟩ ++ .opening :: more ∧
      ∀ depth, Token.brackets.inner? depth more = none := by
  obtain ⟨block, frames⟩ := a
  -- The frames are taken off from the innermost on, until the bracket in question is the innermost.
  induction frames generalizing block with
  | nil => simp at h
  | cons last frames ih =>
    rw [tokens_cons]
    rcases List.suffix_cons_iff.mp h with heq | hsuffix
    · cases heq
      exact ⟨_, rfl, Block.inner?_tokens _⟩
    · obtain ⟨more, hmore, hnone⟩ := ih last.before hsuffix
      refine ⟨more ++ .opening :: Block.tokens block.reverse, by simp [hmore], fun depth => ?_⟩
      -- Behind the next open bracket the search stands one level deeper, and ends in its block.
      apply Brackets.inner?_append_eq_none (hnone depth)
      intro depth
      rw [Brackets.inner?_of_opens rfl rfl, Block.inner?_tokens, Option.map_none]

/-- An open bracket has no partner among the tokens taken in. -/
theorem closing?_of_suffix {a : Assembly ι α} {frame : Frame ι α} {outer : List (Frame ι α)}
    (h : frame :: outer <:+ a.frames) :
    Token.brackets.closing? a.tokens (tokens ⟨frame.before, outer⟩).length = none := by
  obtain ⟨more, hmore, hnone⟩ := exists_tokens_eq_of_suffix h
  have hdrop : (tokens ⟨frame.before, outer⟩ ++ .opening :: more).drop
      ((tokens ⟨frame.before, outer⟩).length + 1) = more := by
    simp [List.drop_append]
  rw [hmore, Brackets.closing?, hdrop, hnone, Option.map_none]

/-- An opening bracket among the tokens taken in begins a loop, or it is open. -/
theorem loopAt_or_exists_frame {a : Assembly ι α} {place : Nat}
    (h : a.tokens[place]? = some .opening) :
    (∃ ending, Block.LoopAt a.tokens place ending) ∨
      ∃ frame outer, frame :: outer <:+ a.frames ∧
        place = (tokens ⟨frame.before, outer⟩).length := by
  have hblock : ∀ {block : Block α} {place : Nat}, block.tokens[place]? = some .opening →
      ∃ ending, Block.LoopAt block.tokens place ending := by
    intro block place h
    obtain ⟨beginning, ending, hloop, rfl | rfl⟩ := Block.exists_loopAt h (by simp)
    · exact ⟨ending, hloop⟩
    · cases h.symm.trans hloop.getElem?_ending
  obtain ⟨block, frames⟩ := a
  induction frames generalizing block with
  | nil =>
    -- No bracket is open, so all of the tokens are those of one block.
    have htokens : tokens ⟨block, ([] : List (Frame ι α))⟩ = Block.tokens block.reverse := by
      simp [tokens]
    rw [htokens] at h ⊢
    exact .inl (hblock h)
  | cons frame frames ih =>
    rw [tokens_cons] at h ⊢
    -- The place is in front of the innermost open bracket, or that of it, or behind it.
    rcases Nat.lt_trichotomy place (tokens ⟨frame.before, frames⟩).length with hlt | heq | hgt
    · rw [List.getElem?_append_left hlt] at h
      rcases ih frame.before h with ⟨ending, hloop⟩ | ⟨other, outer, hsuffix, hplace⟩
      · exact .inl ⟨ending, hloop.append_right _⟩
      · exact .inr ⟨other, outer, hsuffix.trans (List.suffix_cons frame frames), hplace⟩
    · exact .inr ⟨frame, frames, List.suffix_refl _, heq⟩
    · obtain ⟨offset, rfl⟩ := Nat.exists_eq_add_of_lt hgt
      generalize hfront : tokens ⟨frame.before, frames⟩ ++ [.opening] = front
      have hlength : front.length = (tokens ⟨frame.before, frames⟩).length + 1 := by
        rw [← hfront, List.length_append, List.length_singleton]
      have hplace :
          (tokens ⟨frame.before, frames⟩).length + offset + 1 = front.length + offset := by
        omega
      rw [← List.singleton_append, ← List.append_assoc, hfront, hplace] at h ⊢
      rw [List.getElem?_append_right (Nat.le_add_right _ _), Nat.add_sub_cancel_left] at h
      obtain ⟨ending, hloop⟩ := hblock h
      exact .inl ⟨_, hloop.append_left front⟩

end Assembly

/-! ### One iteration -/

namespace IsRowAt

variable {offset : Nat} {text : Text} {words : List PlacedWord}

theorem gap_append {gap : Text} (hgap : IsGap gap) (h : IsRowAt (offset + gap.length) text words) :
    IsRowAt offset (gap ++ text) words := by
  cases h with
  | nil hgap' => exact .nil (hgap.append hgap')
  | @cons _ gap' word rest t words hgap' hword hrest =>
    have hplaces : offset + gap.length + gap'.length = offset + (gap ++ gap').length := by
      rw [List.length_append, Nat.add_assoc]
    rw [hplaces] at hrest ⊢
    rw [← List.append_assoc]
    exact .cons (hgap.append hgap') hword hrest

/-- Two rows, one behind the other. -/
theorem append {other : Text} {others : List PlacedWord} (h : IsRowAt offset text words)
    (hother : IsRowAt (offset + text.length) other others) :
    IsRowAt offset (text ++ other) (words ++ others) := by
  induction h with
  | nil hgap => exact gap_append hgap hother
  | cons hgap hword _ ih =>
    rw [List.append_assoc, List.append_assoc]
    refine .cons hgap hword (ih ?_)
    simpa only [List.length_append, Nat.add_assoc] using hother

/-- A word that stands further back in a row starts further back. -/
theorem start_lt (h : IsRowAt offset text words) {i j : Nat} {w v : PlacedWord}
    (hw : words[i]? = some w) (hv : words[j]? = some v) (hij : i < j) : w.start < v.start := by
  obtain ⟨hi, rfl⟩ := List.getElem?_eq_some_iff.mp hw
  obtain ⟨hj, rfl⟩ := List.getElem?_eq_some_iff.mp hv
  exact List.pairwise_iff_getElem.mp h.pairwise_start i j hi hj hij

/-- A row of one word. -/
theorem word {gap word : Text} {t : Token Instruction} (hgap : IsGap gap) (hword : Spells word t) :
    IsRowAt offset (gap ++ word)
      [⟨offset + gap.length, offset + gap.length + word.length, t⟩] := by
  simpa using IsRowAt.cons hgap hword (.nil .nil)

end IsRowAt

namespace Reading

/-- The next state, if the reading goes on. -/
def Step.next? : Step → Option Reading
  | .more r => some r
  | .done _ => none

/-- The state at the top of an iteration of the reading of a source, if there are so many. -/
def iteration? (source : Text) : Nat → Option Reading
  | 0 => some (start source)
  | n + 1 => (iteration? source n).bind fun r => r.step.next?

/-- What is known of the words in front of the cursor while a source is read. -/
structure Tracks (source : Text) (r : Reading) (words : List PlacedWord) : Prop
    extends Follows source r where
  /-- The words are those in front of the cursor. -/
  rowAt : IsRowAt 0 (source.take r.cursor.offset) words
  /-- They stand for the tokens taken in. -/
  tokens_eq : tokensOf words = r.assembly.tokens
  /-- An open bracket is the word behind those that were taken in before it. -/
  opening : ∀ frame outer, frame :: outer <:+ r.assembly.frames →
    words[(Assembly.tokens ⟨frame.before, outer⟩).length]? =
      some ⟨frame.bracket, frame.bracket + 1, .opening⟩

theorem tracks_start (source : Text) : Tracks source (start source) [] where
  toFollows := follows_start source
  rowAt := .nil .nil
  tokens_eq := by simp [start, tokensOf, Assembly.tokens]
  opening := by
    intro frame outer h
    simp [start] at h

/-- An iteration moves the cursor forward. -/
theorem offset_lt_of_step {r next : Reading} (hstep : r.step = .more next) :
    r.cursor.offset < next.cursor.offset := by
  obtain ⟨gap, word, t, -, hword, -, hoffset, -⟩ := of_step_more hstep
  have hpos := List.length_pos_iff.mpr hword.ne_nil
  omega

namespace Tracks

variable {source : Text} {r : Reading} {words : List PlacedWord}

/-- An iteration keeps what is known of the words, with one more word. -/
theorem step (h : Tracks source r words) {next : Reading} (hstep : r.step = .more next) :
    ∃ w, Tracks source next (words ++ [w]) := by
  obtain ⟨gap, word, t, hgap, hword, hrest, hoffset, hplace⟩ := of_step_more hstep
  refine ⟨⟨r.cursor.offset + gap.length, r.cursor.offset + gap.length + word.length, t⟩,
    h.toFollows.step hstep, ?_, ?_, ?_⟩
  · rw [h.take_step hrest hoffset]
    apply h.rowAt.append
    rw [Nat.zero_add, List.length_take, Nat.min_eq_left h.offset_le]
    exact .word hgap hword
  · rw [Assembly.tokens_of_place? hplace, ← h.tokens_eq, tokensOf, List.map_append]
    rfl
  · intro frame outer hsuffix
    rcases Assembly.suffix_frames_of_place? hplace hsuffix with hsuffix | ⟨rfl, heq⟩
    · have hold := h.opening frame outer hsuffix
      rw [List.getElem?_append_left (List.getElem?_eq_some_iff.mp hold).1, hold]
    · -- The new bracket is the word behind all that were there.
      cases heq
      cases hword
      have hlength : (Assembly.tokens ⟨r.assembly.block, r.assembly.frames⟩).length =
          words.length := by
        have hlengths := congrArg List.length h.tokens_eq
        rw [tokensOf, List.length_map] at hlengths
        exact hlengths.symm
      rw [hlength, List.getElem?_concat_length]
      rfl

/-- An open bracket stands behind those around it. -/
theorem bracket_lt (h : Tracks source r words) {frame other : Frame Nat Instruction}
    {outer : List (Frame Nat Instruction)} (hsuffix : frame :: outer <:+ r.assembly.frames)
    (hother : other ∈ outer) : other.bracket < frame.bracket := by
  obtain ⟨rest, hother_suffix⟩ := Assembly.exists_suffix_of_mem hother
  -- The tokens in front of the outer bracket are fewer, so its word stands further in front.
  have hplace : (Assembly.tokens ⟨other.before, rest⟩).length <
      (Assembly.tokens ⟨frame.before, outer⟩).length := by
    obtain ⟨more, hmore, -⟩ :=
      Assembly.exists_tokens_eq_of_suffix (a := ⟨frame.before, outer⟩) hother_suffix
    rw [hmore, List.length_append, List.length_cons]
    omega
  have hother_open := h.opening other rest
    ((hother_suffix.trans (List.suffix_cons frame outer)).trans hsuffix)
  exact h.rowAt.start_lt hother_open (h.opening frame outer hsuffix) hplace

/-- The open brackets stand one behind the other, from the outermost to the innermost. -/
theorem pairwise_bracket (h : Tracks source r words) :
    (r.assembly.frames.reverse.map (·.bracket)).Pairwise (· < ·) := by
  rw [List.map_reverse, List.pairwise_reverse, List.pairwise_map]
  -- The induction goes over the ends of the stack: what is known of a bracket is known of its end.
  have hsuffixes : ∀ frames, frames <:+ r.assembly.frames →
      frames.Pairwise fun frame other => other.bracket < frame.bracket := by
    intro frames hframes
    induction frames with
    | nil => exact .nil
    | cons frame outer ih =>
      refine List.pairwise_cons.mpr ⟨fun other hother => h.bracket_lt hframes hother, ?_⟩
      exact ih ((List.suffix_cons frame outer).trans hframes)
  exact hsuffixes _ (List.suffix_refl _)

/-- The open brackets are the opening ones that have no partner in front of the cursor. -/
theorem mem_brackets_iff (h : Tracks source r words) (offset : Nat) :
    offset ∈ r.assembly.frames.map (·.bracket) ↔
      ∃ w ∈ words, w.start = offset ∧ w.token = .opening ∧ ¬ ∃ v, ArePartners words w v := by
  constructor
  · intro hoffset
    obtain ⟨frame, hframe, rfl⟩ := List.mem_map.mp hoffset
    obtain ⟨outer, hsuffix⟩ := Assembly.exists_suffix_of_mem hframe
    have hopening := h.opening frame outer hsuffix
    refine ⟨_, List.mem_of_getElem? hopening, rfl, rfl, ?_⟩
    rintro ⟨v, place, other, hplace, -, hpartner⟩
    -- The word has one place only, and no partner is found from there.
    rcases Nat.lt_trichotomy place (Assembly.tokens ⟨frame.before, outer⟩).length with
      hlt | rfl | hgt
    · exact absurd (h.rowAt.start_lt hplace hopening hlt) (Nat.lt_irrefl _)
    · rw [h.tokens_eq, Assembly.closing?_of_suffix hsuffix] at hpartner
      cases hpartner
    · exact absurd (h.rowAt.start_lt hopening hplace hgt) (Nat.lt_irrefl _)
  · rintro ⟨w, hw, rfl, htoken, hpartner⟩
    obtain ⟨place, hplace⟩ := List.getElem?_of_mem hw
    have hopening : r.assembly.tokens[place]? = some .opening := by
      rw [← h.tokens_eq, tokensOf, List.getElem?_map, hplace, Option.map_some, htoken]
    rcases Assembly.loopAt_or_exists_frame hopening with
      ⟨ending, hloop⟩ | ⟨frame, outer, hsuffix, rfl⟩
    · -- The end of a loop is a token that was taken in, so there is a word for it, a partner.
      have hending := hloop.getElem?_ending
      rw [← h.tokens_eq, tokensOf, List.getElem?_map] at hending
      obtain ⟨v, hv, -⟩ := Option.map_eq_some_iff.mp hending
      refine absurd ⟨v, place, ending, hplace, hv, ?_⟩ hpartner
      rw [h.tokens_eq, hloop.closing?_eq]
    · obtain rfl := Option.some.inj (hplace.symm.trans (h.opening frame outer hsuffix))
      exact List.mem_map.mpr ⟨frame, hsuffix.subset List.mem_cons_self, rfl⟩

end Tracks

/-- What is kept, printed from the outermost block on, is what was read, without its gaps. -/
theorem Follows.withoutGaps {source : Text} {r : Reading} (h : Follows source r) :
    Text.withoutGaps .code (source.take r.cursor.offset) =
      (r.assembly.frames.reverse.flatMap fun frame =>
        Program.text frame.before.reverse ++ ['[']) ++ Program.text r.assembly.block.reverse := by
  rw [h.row.withoutGaps, Assembly.tokens, List.flatMap_append, List.flatMap_assoc,
    Program.text_eq_flatMap r.assembly.block.reverse]
  congr 2
  funext frame
  rw [List.flatMap_append, Program.text_eq_flatMap]
  rfl

/-! ### All iterations -/

theorem iteration?_succ_eq_some {source : Text} {n : Nat} {next : Reading} :
    iteration? source (n + 1) = some next ↔
      ∃ r, iteration? source n = some r ∧ r.step = .more next := by
  rw [iteration?, Option.bind_eq_some_iff]
  apply exists_congr
  intro r
  apply and_congr_right
  intro _
  cases r.step with
  | more r' => simp [Step.next?]
  | done result => simp [Step.next?]

/-- All iterations keep what is known of the words. There are not more of them in front of a cursor
than characters. -/
theorem exists_tracks {source : Text} {n : Nat} {r : Reading} (h : iteration? source n = some r) :
    (∃ words, Tracks source r words) ∧ n ≤ r.cursor.offset := by
  induction n generalizing r with
  | zero =>
    cases h
    exact ⟨⟨[], tracks_start source⟩, Nat.zero_le _⟩
  | succ n ih =>
    obtain ⟨before, hbefore, hstep⟩ := iteration?_succ_eq_some.mp h
    obtain ⟨⟨words, hwords⟩, hle⟩ := ih hbefore
    obtain ⟨w, hw⟩ := hwords.step hstep
    exact ⟨⟨_, hw⟩, Nat.lt_of_le_of_lt hle (offset_lt_of_step hstep)⟩

/-- The cursor stands behind the places where it stood in all iterations before. -/
theorem offset_lt_of_iteration {source : Text} {m n : Nat} {q r : Reading} (hmn : m < n)
    (hq : iteration? source m = some q) (hr : iteration? source n = some r) :
    q.cursor.offset < r.cursor.offset := by
  induction n generalizing r with
  | zero => exact absurd hmn (Nat.not_lt_zero m)
  | succ n ih =>
    obtain ⟨before, hbefore, hstep⟩ := iteration?_succ_eq_some.mp hr
    have hlt := offset_lt_of_step hstep
    rcases Nat.lt_succ_iff_lt_or_eq.mp hmn with hmn | rfl
    · exact (ih hmn hbefore).trans hlt
    · obtain rfl := Option.some.inj (hq.symm.trans hbefore)
      exact hlt

/-- The iterations come to an end, at the latest when there is one more of them than there are
characters. -/
theorem exists_last_iteration (source : Text) :
    ∃ n last, n ≤ source.length ∧ iteration? source n = some last ∧
      last.step = .done (ofSource source) ∧ iteration? source (n + 1) = none := by
  -- From any iteration on, the run of the reading goes through the iterations behind it.
  have hrun : ∀ (r : Reading) (n : Nat), iteration? source n = some r →
      ∃ m last, iteration? source m = some last ∧ last.step = .done r.run := by
    intro r
    fun_induction run r with
    | case1 r next hstep ih =>
      intro n hn
      exact ih (n + 1) (iteration?_succ_eq_some.mpr ⟨r, hn, hstep⟩)
    | case2 r result hstep =>
      intro n hn
      exact ⟨n, r, hn, hstep⟩
  obtain ⟨n, last, hn, hstep⟩ := hrun (start source) 0 rfl
  obtain ⟨⟨words, hwords⟩, hle⟩ := exists_tracks hn
  refine ⟨n, last, hle.trans hwords.offset_le, hn, hstep, ?_⟩
  rw [iteration?, hn, Option.bind_some, hstep, Step.next?]

/-- At the top of every iteration the cursor stands in the source, behind where it stood in the
iterations before, so there is at most one iteration more than characters. The places of the open
brackets increase from the outermost to the innermost, there are opening brackets at these places,
and they are those words in front of the cursor that open a loop and have no partner there. What is
kept in front of them and in the innermost block is printed as the text in front of the cursor
without its gaps. -/
theorem iteration_invariant (source : Text) :
    (∃ n last, n ≤ source.length ∧ iteration? source n = some last ∧
      last.step = .done (ofSource source) ∧ iteration? source (n + 1) = none) ∧
    ∀ n r, iteration? source n = some r →
      r.cursor.offset ≤ source.length ∧
      (∀ m q, m < n → iteration? source m = some q → q.cursor.offset < r.cursor.offset) ∧
      (r.assembly.frames.reverse.map (·.bracket)).Pairwise (· < ·) ∧
      (∀ offset ∈ r.assembly.frames.map (·.bracket), source[offset]? = some '[') ∧
      (∃ words, IsRowAt 0 (source.take r.cursor.offset) words ∧
        ∀ offset, offset ∈ r.assembly.frames.map (·.bracket) ↔
          ∃ w ∈ words, w.start = offset ∧ w.token = .opening ∧ ¬ ∃ v, ArePartners words w v) ∧
      (r.assembly.frames.reverse.flatMap fun frame =>
        Program.text frame.before.reverse ++ ['[']) ++ Program.text r.assembly.block.reverse =
          Text.withoutGaps .code (source.take r.cursor.offset) := by
  refine ⟨exists_last_iteration source, fun n r hn => ?_⟩
  obtain ⟨⟨words, hwords⟩, -⟩ := exists_tracks hn
  refine ⟨hwords.offset_le, fun m q hmn hq => offset_lt_of_iteration hmn hq hn,
    hwords.pairwise_bracket, fun offset hoffset => ?_,
    ⟨words, hwords.rowAt, hwords.mem_brackets_iff⟩, hwords.withoutGaps.symm⟩
  obtain ⟨frame, hframe, rfl⟩ := List.mem_map.mp hoffset
  obtain ⟨outer, hsuffix⟩ := Assembly.exists_suffix_of_mem hframe
  exact (hwords.bracket frame outer hsuffix).1

/-- In front of the last character two loops are open. The closing brackets there stand in a
comment and in an insert. -/
theorem iteration_invariant_open :
    iteration? "+[#]#.[::]::-".toList 5 =
        some ⟨⟨12, ['-']⟩, [.leaf (.insert [']'])],
          [⟨6, [.leaf .output]⟩, ⟨1, [.leaf (.cell .add 1)]⟩]⟩ ∧
      12 ≤ 13 ∧
      (∀ m q, m < 5 → iteration? "+[#]#.[::]::-".toList m = some q → q.cursor.offset < 12) ∧
      [1, 6].Pairwise (· < ·) ∧
      (∃ words, IsRowAt 0 "+[#]#.[::]::".toList words ∧ ∀ offset, offset ∈ [6, 1] ↔
        ∃ w ∈ words, w.start = offset ∧ w.token = .opening ∧ ¬ ∃ v, ArePartners words w v) ∧
      Program.text [.leaf (.cell .add 1)] ++ ['['] ++ (Program.text [.leaf .output] ++ ['[']) ++
          Program.text [.leaf (.insert [']'])] =
        Text.withoutGaps .code "+[#]#.[::]::".toList := by
  have hiteration : iteration? "+[#]#.[::]::-".toList 5 =
      some ⟨⟨12, ['-']⟩, [.leaf (.insert [']'])],
        [⟨6, [.leaf .output]⟩, ⟨1, [.leaf (.cell .add 1)]⟩]⟩ := by
    with_unfolding_all rfl
  obtain ⟨hoffset, hbefore, hincreasing, -, hwords, htext⟩ :=
    (iteration_invariant "+[#]#.[::]::-".toList).2 5 _ hiteration
  refine ⟨hiteration, hoffset, hbefore, hincreasing, hwords, ?_⟩
  simpa using htext

end Reading

end TapeCompiler
