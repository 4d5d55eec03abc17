import TapeCompiler.Proofs.Source.Beginning

/-!
# How a rejected source can go on

A fault may mean no more than that the source is not at its end yet. A reader that moves from left
to right has taken in everything in front of the fault, and no continuation can change that: of a
row that begins with a given text, only the part behind that text is still open. So a source goes on
to a program if and only if what stands at the fault can be completed, as an insert, a comment or a
loop that is not closed, or as a single colon at the very end.

## Main results

* `IsRow.exists_of_append` — of a row, what stands behind a row is a row
* `Block.tokens_ne_append_closing` — no program begins with a program and a closing bracket
* `Reading.Follows.exists_of_parse_append`, `Reading.Follows.exists_parse_append` — what a program
  that begins with the source has in front, and when there is one
* `exists_parse_append_iff` — the sources that go on to a program
-/

namespace TapeCompiler

/-! ### Behind a row -/

/-- No gap stands at a text with which none begins. -/
theorem IsGap.eq_nil_of_settled {gap rest : Text} (h : IsGap gap)
    (hsettled : Settled (gap ++ rest)) : gap = [] := by
  cases h with
  | nil => rfl
  | blank hc _ =>
    have hblank := (hsettled _ _ rfl).1
    rw [isBlank_iff.mpr hc] at hblank
    cases hblank
  | comment _ _ => exact absurd (by simp) ((hsettled _ _ rfl).2 rfl)

namespace IsRow

/-- What stands behind a gap begins where the reader comes to rest, or with one more gap. -/
theorem exists_gap_of_gap_append {gap : Text} (hgap : IsGap gap) (text : Text) :
    ∃ more, IsGap more ∧ text = more ++ (Cursor.skipGap ⟨0, gap ++ text⟩).rest := by
  obtain ⟨more, hmore, htext, -⟩ := Cursor.exists_gap ⟨0 + gap.length, text⟩
  refine ⟨more, hmore, ?_⟩
  rw [Cursor.skipGap_append hgap]
  exact htext

/-- A row stays a row without a gap in front. -/
theorem of_gap_append {gap text : Text} {ts : List (Token Instruction)} (hgap : IsGap gap)
    (h : IsRow (gap ++ text) ts) : IsRow text ts := by
  obtain ⟨more, hmore, htext⟩ := exists_gap_of_gap_append hgap text
  generalize gap ++ text = whole at h htext
  cases h with
  | nil hwhole =>
    have hskip := Cursor.skipGap_append hwhole 0 []
    rw [List.append_nil, Cursor.skipGap_of_settled settled_nil] at hskip
    rw [hskip, List.append_nil] at htext
    exact htext ▸ .nil hmore
  | cons hgap' hword hrest =>
    rw [Cursor.skipGap_append hgap', Cursor.skipGap_of_settled (hword.settled _)] at htext
    exact htext ▸ .cons hmore hword hrest

/-- If a row begins with a text that is a row itself, the tokens of that text come first, and what
stands behind it is a row of the others. -/
theorem exists_of_append {front text : Text} {us ts : List (Token Instruction)}
    (hfront : IsRow front us) (h : IsRow (front ++ text) ts) :
    ∃ vs, ts = us ++ vs ∧ IsRow text vs := by
  induction hfront generalizing ts with
  | nil hgap => exact ⟨ts, rfl, of_gap_append hgap h⟩
  | @cons gap word rest t us hgap hword _ ih =>
    -- The index of the whole row has to be a variable before its cases can be told apart.
    rw [List.append_assoc, List.append_assoc] at h
    generalize hwhole : gap ++ (word ++ (rest ++ text)) = whole at h
    cases h with
    | nil hgap' => exact absurd hwhole.symm (ne_gap hgap' hgap hword)
    | cons hgap' hword' hrest' =>
      obtain ⟨rfl, rfl⟩ := eq_of_gap_word hgap hword hgap' hword' hwhole
      obtain ⟨vs, rfl, hvs⟩ := ih hrest'
      exact ⟨vs, rfl, hvs⟩

/-- No row begins with a character with which neither a gap nor a word begins. -/
theorem not_of_unexpected {c : Char} {rest : Text} {ts : List (Token Instruction)}
    (hblank : isBlank c = false) (hc : c ∉ ['>', '<', '+', '-', ',', '.', '[', ']', '#'])
    (hcolons : ¬ (c = ':' ∧ rest.head? = some ':')) : ¬ IsRow (c :: rest) ts := by
  have hsettled := settled_of_unexpected hblank hc rest
  intro h
  generalize htext : c :: rest = text at h
  cases h with
  | nil hgap =>
    rw [htext, ← List.append_nil text] at hsettled
    rw [hgap.eq_nil_of_settled hsettled] at htext
    cases htext
  | cons hgap hword _ =>
    rw [htext] at hsettled
    obtain rfl := hgap.eq_nil_of_settled hsettled
    -- A single character is in the list, and an insert begins with two colons.
    cases hword with
    | insert _ =>
      cases htext
      exact hcolons ⟨rfl, rfl⟩
    | _ =>
      cases htext
      simp at hc

end IsRow

/-- The tokens of a program do not begin with those of a program and a closing bracket. -/
theorem Block.tokens_ne_append_closing {α : Type} (program block : Block α)
    (ts : List (Token α)) : program.tokens ≠ block.tokens ++ .closing :: ts := by
  intro h
  have htakeIn := Assembly.takeIn?_tokens program ({} : Assembly Unit α)
  rw [h, Assembly.takeIn?_append, Assembly.takeIn?_tokens] at htakeIn
  simp [Assembly.token?, Assembly.leave?] at htakeIn

/-! ### At a fault -/

/-- A text without a double colon can be completed to one that can stand in front of a double colon:
its last character may be the first of the two colons. -/
theorem exists_append_eq_enclosable {rest : Text} (hcolons : ¬ [':', ':'] <:+: rest) :
    ∃ t inner, Enclosable inner ∧ rest ++ t = inner ++ [':', ':'] := by
  by_cases hcolon : [':'] <:+ rest
  · obtain ⟨inner, rfl⟩ := hcolon
    exact ⟨[':'], inner, hcolons, by simp⟩
  · exact ⟨[':', ':'], rest, enclosable_iff.mpr ⟨hcolons, hcolon⟩, rfl⟩

namespace Reading.Follows

variable {source : Text} {r : Reading}

/-- A source with a continuation is what was taken in, the rest, and the continuation. -/
theorem append_eq (h : Follows source r) (t : Text) :
    source ++ t = source.take r.cursor.offset ++ (r.cursor.rest ++ t) := by
  rw [h.rest_eq, ← List.append_assoc, List.take_append_drop]

/-- A program that begins with the source has the tokens taken in so far in front, and the rest of
the source with the continuation is a row of the others. -/
theorem exists_of_parse_append (h : Follows source r) {t : Text} {program : Program}
    (accepted : parse (source ++ t) = .ok program) :
    ∃ ts, program.tokens = r.assembly.tokens ++ ts ∧ IsRow (r.cursor.rest ++ t) ts := by
  have hrow := parse_eq_ok_iff.mp accepted
  rw [h.append_eq] at hrow
  exact h.row.exists_of_append hrow

/-- If the rest of the source goes on as a row of tokens that can be taken in, the source goes on to
a program: then only closing brackets are missing. -/
theorem exists_parse_append (h : Follows source r) {t : Text} {ts : List (Token Instruction)}
    {b : Assembly Nat Instruction} (hb : b.tokens = r.assembly.tokens ++ ts)
    (hrest : IsRow (r.cursor.rest ++ t) ts) : ∃ t program, parse (source ++ t) = .ok program := by
  have hrow := h.row.append hrest
  rw [← h.append_eq, ← hb] at hrow
  have hclosed := hrow.parse_append_closing
  rw [List.append_assoc] at hclosed
  exact ⟨_, _, hclosed⟩

variable {gap rest : Text}

/-- An insert that is not closed can be closed. -/
theorem exists_parse_append_insert (h : Follows source r) (hgap : IsGap gap)
    (hrest : r.cursor.rest = gap ++ ':' :: ':' :: rest) (hcolons : ¬ [':', ':'] <:+: rest) :
    ∃ t program, parse (source ++ t) = .ok program := by
  obtain ⟨t, inner, hinner, ht⟩ := exists_append_eq_enclosable hcolons
  refine h.exists_parse_append (t := t) (Assembly.tokens_add (.insert inner) r.assembly) ?_
  have htext : r.cursor.rest ++ t = gap ++ (':' :: ':' :: inner ++ [':', ':']) := by
    simp [hrest, ht]
  rw [htext]
  exact IsRow.gap_append hgap (.word (.insert hinner))

/-- A comment that is not closed can be closed. -/
theorem exists_parse_append_comment (h : Follows source r) (hgap : IsGap gap)
    (hrest : r.cursor.rest = gap ++ '#' :: rest) (hhash : '#' ∉ rest) :
    ∃ t program, parse (source ++ t) = .ok program := by
  refine h.exists_parse_append (t := ['#']) (List.append_nil r.assembly.tokens).symm ?_
  have htext : r.cursor.rest ++ ['#'] = gap ++ ('#' :: rest ++ '#' :: []) := by
    simp [hrest]
  rw [htext]
  exact .nil (hgap.append (.comment hhash .nil))

/-- Nothing that follows a closing bracket without a partner makes a program. -/
theorem not_parse_append_closing (h : Follows source r) (hgap : IsGap gap)
    (hrest : r.cursor.rest = gap ++ ']' :: rest) (hframes : r.assembly.frames = []) (t : Text)
    (program : Program) : parse (source ++ t) ≠ .ok program := by
  intro accepted
  obtain ⟨ts, htokens, hrow⟩ := h.exists_of_parse_append accepted
  have htext : r.cursor.rest ++ t = (gap ++ [']']) ++ (rest ++ t) := by
    simp [hrest]
  rw [htext] at hrow
  obtain ⟨us, rfl, -⟩ := IsRow.exists_of_append (.gap_append hgap (.word .closing)) hrow
  -- No bracket is open, so the tokens in front of this one are those of a whole program.
  have hblock : r.assembly.tokens = Block.tokens r.assembly.block.reverse := by
    simp [Assembly.tokens, hframes]
  rw [hblock] at htokens
  exact program.tokens_ne_append_closing _ _ htokens

/-- A source goes on to a program behind a character with which no word begins, if that is a colon
and the source ends there. -/
theorem exists_parse_append_iff_colon (h : Follows source r) {c : Char} (hgap : IsGap gap)
    (hrest : r.cursor.rest = gap ++ c :: rest) (hblank : isBlank c = false)
    (hc : c ∉ ['>', '<', '+', '-', ',', '.', '[', ']', '#'])
    (hcolons : ¬ (c = ':' ∧ rest.head? = some ':')) :
    (∃ t program, parse (source ++ t) = .ok program) ↔ c = ':' ∧ rest = [] := by
  constructor
  · rintro ⟨t, program, accepted⟩
    obtain ⟨ts, -, hrow⟩ := h.exists_of_parse_append accepted
    rw [hrest, List.append_assoc] at hrow
    have hword := hrow.of_gap_append hgap
    -- Only a second colon directly behind the first can make a word of it.
    cases rest with
    | cons d rest => exact absurd hword (IsRow.not_of_unexpected hblank hc hcolons)
    | nil =>
      by_cases hcolon : c = ':'
      · exact ⟨hcolon, rfl⟩
      · exact absurd hword (IsRow.not_of_unexpected hblank hc fun hcolons => hcolon hcolons.1)
  · rintro ⟨rfl, rfl⟩
    refine h.exists_parse_append (t := [':', ':', ':'])
      (Assembly.tokens_add (.insert []) r.assembly) ?_
    rw [hrest, List.append_assoc]
    exact IsRow.gap_append hgap (.word (.insert enclosable_nil))

end Reading.Follows

/-- A rejected source is the beginning of a source that is accepted if and only if a comment, an
insert or a loop in it is not closed, or its last character is a single colon with which nothing
begins. -/
theorem exists_parse_append_iff {source : Text} {e : SyntaxError}
    (rejected : parse source = .error e) :
    (∃ t program, parse (source ++ t) = .ok program) ↔
      e.reason = .unterminatedComment ∨ e.reason = .unterminatedInsert ∨
        e.reason = .unterminatedLoop ∨
        (e.reason = .unexpected ':' ∧ e.offset + 1 = source.length) := by
  obtain ⟨r, hfollows, hfault⟩ := exists_stumbles_of_error rejected
  obtain ⟨⟨reason, offset⟩, _⟩ := e
  cases hfault with
  | unmatchedClose hgap hrest hframes =>
    have hnone := hfollows.not_parse_append_closing hgap hrest hframes
    simp [hnone]
  | unterminatedInsert hgap hrest hcolons =>
    simp [hfollows.exists_parse_append_insert hgap hrest hcolons]
  | unterminatedComment hgap hrest hhash =>
    simp [hfollows.exists_parse_append_comment hgap hrest hhash]
  | @unexpected gap rest c hgap hrest hblank hc hcolons =>
    rw [hfollows.exists_parse_append_iff_colon hgap hrest hblank hc hcolons]
    -- The fault is at the last character if nothing stands behind it.
    have hlength := congrArg List.length (hfollows.rest_eq.symm.trans hrest)
    have hoffset := hfollows.offset_le
    simp only [List.length_drop, List.length_append, List.length_cons] at hlength
    have hlast : r.cursor.offset + gap.length + 1 = source.length ↔ rest = [] := by
      rw [← List.length_eq_zero_iff]
      omega
    simp [hlast]
  | unterminatedLoop hgap _ =>
    have hrow : IsRow (r.cursor.rest ++ []) [] := by
      rw [List.append_nil]
      exact .nil hgap
    simp [hfollows.exists_parse_append (List.append_nil r.assembly.tokens).symm hrow]

/-- A single colon can become the first of two, but not with something between them. -/
theorem exists_parse_append_iff_colons :
    parse "[.:".toList = .error ⟨⟨.unexpected ':', 2⟩, "[.:".toList⟩ ∧
      (∃ t program, parse ("[.:".toList ++ t) = .ok program) ∧
    parse "[.: :".toList = .error ⟨⟨.unexpected ':', 2⟩, "[.: :".toList⟩ ∧
      ¬ ∃ t program, parse ("[.: :".toList ++ t) = .ok program := by
  have hlast : parse "[.:".toList = .error ⟨⟨.unexpected ':', 2⟩, "[.:".toList⟩ := by
    with_unfolding_all rfl
  have hinner : parse "[.: :".toList = .error ⟨⟨.unexpected ':', 2⟩, "[.: :".toList⟩ := by
    with_unfolding_all rfl
  exact ⟨hlast, (exists_parse_append_iff hlast).mpr (by simp), hinner,
    fun h => absurd ((exists_parse_append_iff hinner).mp h) (by simp)⟩

end TapeCompiler
