import TapeCompiler.Proofs.Source.Beginning
import TapeCompiler.Proofs.Source.Relocation

/-!
# Sources put together from parts

A text that is a row of words is read in the same way whatever follows it, even where its last
characters and the first ones behind it would look like a word of their own. What follows is then
read as if it stood somewhere else. Therefore a gap at the end of such a text changes nothing but
the places behind it; and a source behind a program is accepted or rejected as it is alone, with
the statements of the program in front, or with the place of the fault moved.

## Main definitions

* `Reading.Passes` — a text is read to its end, whatever follows it

## Main results

* `IsRow.exists_of_append_replicate` — closing brackets at the end of a row can be taken away
* `exists_passes_of_parse_append` — a text that can be closed by brackets is read to its end
* `Reading.Passes.append_word`, `Reading.Passes.parse_append_unexpected` — a word behind such a
  text, and a character with which none begins
* `parse_append_gap_append` — a gap between two words does not matter
* `parse_append_of_parse` — a source behind a program, and a program in brackets
-/

namespace TapeCompiler

/-! ### Closing brackets at the end -/

theorem IsGap.getLast?_ne_closing {gap : Text} (h : IsGap gap) : gap.getLast? ≠ some ']' := by
  -- The last character is that of the gap behind the first blank or comment, if that is not empty.
  induction h with
  | nil => simp
  | @blank c rest hc _ ih =>
    have hne : c ≠ ']' := by
      rintro rfl
      exact absurd hc (by decide)
    rw [List.getLast?_cons]
    cases hrest : rest.getLast? with
    | none => simpa using hne
    | some d => simpa [hrest] using ih
  | @comment inner rest _ _ ih =>
    rw [List.getLast?_append, List.getLast?_cons, Option.some_or]
    cases hrest : rest.getLast? with
    | none => simp
    | some d => simpa [hrest] using ih

/-- The only word that ends in a closing bracket is that bracket. -/
theorem Spells.eq_closing_of_getLast? {word : Text} {t : Token Instruction} (h : Spells word t)
    (hlast : word.getLast? = some ']') : word = [']'] ∧ t = .closing := by
  cases h with
  | closing => exact ⟨rfl, rfl⟩
  | insert _ =>
    rw [List.getLast?_append] at hlast
    cases hlast
  | _ => simp at hlast

namespace IsRow

/-- A closing bracket at the end of a row is its last word. -/
theorem exists_of_append_closing {text : Text} {ts : List (Token Instruction)}
    (h : IsRow (text ++ [']']) ts) : ∃ us, ts = us ++ [.closing] ∧ IsRow text us := by
  generalize hwhole : text ++ [']'] = whole at h
  have hlast : whole.getLast? = some ']' := by simp [← hwhole]
  induction h generalizing text with
  | nil hgap => exact absurd hlast hgap.getLast?_ne_closing
  | @cons gap word rest t ts hgap hword hrest ih =>
    rcases List.eq_nil_or_concat rest with rfl | ⟨others, c, rfl⟩
    · -- The bracket belongs to the first word, and so it is this word.
      obtain rfl : ts = [] := hrest.unique (.nil .nil)
      rw [List.append_nil, List.getLast?_append] at hlast
      rcases Option.or_eq_some_iff.mp hlast with hlast | ⟨-, hlast⟩
      · obtain ⟨rfl, rfl⟩ := hword.eq_closing_of_getLast? hlast
        obtain rfl : text = gap := by simpa using hwhole
        exact ⟨[], rfl, .nil hgap⟩
      · exact absurd hlast hgap.getLast?_ne_closing
    · rw [List.concat_eq_append, ← List.append_assoc, ← List.append_assoc] at hwhole
      obtain ⟨rfl, hc⟩ := List.append_inj' hwhole rfl
      obtain ⟨us, rfl, hus⟩ := ih (by rw [hc, List.concat_eq_append]) (by simp [← hc])
      exact ⟨t :: us, rfl, by simpa using .cons hgap hword hus⟩

/-- Closing brackets at the end of a row are its last words. -/
theorem exists_of_append_replicate {text : Text} {n : Nat} {ts : List (Token Instruction)}
    (h : IsRow (text ++ List.replicate n ']') ts) :
    ∃ us, ts = us ++ List.replicate n .closing ∧ IsRow text us := by
  induction n generalizing ts with
  | zero => exact ⟨ts, by simp, by simpa using h⟩
  | succ n ih =>
    rw [List.replicate_succ', ← List.append_assoc] at h
    obtain ⟨us, rfl, hus⟩ := exists_of_append_closing h
    obtain ⟨vs, rfl, hvs⟩ := ih hus
    exact ⟨vs, by rw [List.append_assoc, ← List.replicate_succ'], hvs⟩

end IsRow

/-! ### Reading up to a place -/

/-- A text is read to its end, whatever follows it, and leaves a program under construction whose
open brackets stand in it. -/
structure Reading.Passes (text : Text) (a : Assembly Nat Instruction) : Prop where
  /-- What follows the text is read from its end on. -/
  run_eq : ∀ rest, run (start (text ++ rest)) = run ⟨⟨text.length, rest⟩, a⟩
  /-- The open brackets stand in the text. -/
  bracket_lt : ∀ frame ∈ a.frames, frame.bracket < text.length

/-- Behind a text that is read to its end, a word is read if what it stands for can be taken in. -/
theorem Reading.Passes.append_word {text word : Text} {t : Token Instruction}
    {a b : Assembly Nat Instruction} (h : Passes text a) (hword : Spells word t)
    (hplace : a.place? text.length t = some b) : Passes (text ++ word) b where
  run_eq rest := by
    rw [List.append_assoc, h.run_eq, run_of_more (step_word hword hplace rest), List.length_append]
  bracket_lt frame hframe := by
    have hpos := List.length_pos_iff.mpr hword.ne_nil
    rw [List.length_append]
    rcases Assembly.mem_frames_of_place? hplace hframe with hframe | heq
    · exact Nat.lt_add_right _ (h.bracket_lt frame hframe)
    · omega

/-- Behind a text that is read to its end, a character with which neither a gap nor a word begins is
reported. -/
theorem Reading.Passes.parse_append_unexpected {text : Text} {a : Assembly Nat Instruction}
    (h : Passes text a) {c : Char} {rest : Text} (hblank : isBlank c = false)
    (hc : c ∉ ['>', '<', '+', '-', ',', '.', '[', ']', '#'])
    (hcolons : ¬ (c = ':' ∧ rest.head? = some ':')) :
    parse (text ++ c :: rest) =
      .error ⟨⟨.unexpected c, text.length⟩, text ++ c :: rest⟩ := by
  have hskip : Cursor.skipGap ⟨text.length, c :: rest⟩ = ⟨text.length, c :: rest⟩ :=
    Cursor.skipGap_of_settled (settled_of_unexpected hblank hc rest)
  have hlexeme : (Cursor.skipGap ⟨text.length, c :: rest⟩).lexeme = .fault (.unexpected c) := by
    rw [hskip]
    exact (Cursor.Finds.unexpected hc hcolons).lexeme_eq
  have hstep : step ⟨⟨text.length, c :: rest⟩, a⟩ =
      .done ⟨⟨text.length, c :: rest⟩, .error ⟨.unexpected c, text.length⟩⟩ := by
    rw [step_of_fault hlexeme, hskip]
  rw [parse, ofSource, h.run_eq, run_of_done hstep]
  rfl

/-- A row is read to its end if its tokens can be taken in. -/
theorem IsRow.exists_passes {text : Text} {ts : List (Token Instruction)} (h : IsRow text ts)
    {b : Assembly Unit Instruction} (hts : Assembly.takeIn? {} ts = some b) :
    ∃ a : Assembly Nat Instruction, a.anonymous = b ∧ Reading.Passes text a := by
  obtain ⟨a, ha, hbracket, hrun⟩ := Reading.exists_run_eq (a := {}) h hts 0
  rw [Nat.zero_add] at hbracket hrun
  exact ⟨a, ha, hrun, fun frame hframe => (hbracket frame hframe).resolve_left (by simp)⟩

/-- A text that becomes a program by closing brackets is read to its end. -/
theorem exists_passes_of_parse_append {text : Text} {n : Nat} {program : Program}
    (opened : parse (text ++ List.replicate n ']') = .ok program) :
    ∃ a, Reading.Passes text a := by
  obtain ⟨ts, htokens, hrow⟩ := (parse_eq_ok_iff.mp opened).exists_of_append_replicate
  -- The tokens of the program can be taken in, and so can those at the front.
  have htakeIn := Assembly.takeIn?_tokens program ({} : Assembly Unit Instruction)
  rw [htokens, Assembly.takeIn?_append] at htakeIn
  obtain ⟨b, hb, -⟩ := Option.bind_eq_some_iff.mp htakeIn
  obtain ⟨a, -, hpasses⟩ := hrow.exists_passes hb
  exact ⟨a, hpasses⟩

/-- A program is read to its end, and leaves its statements. -/
theorem passes_of_parse {source : Text} {program : Program}
    (accepted : parse source = .ok program) : Reading.Passes source ⟨program.reverse, []⟩ := by
  have htakeIn := Assembly.takeIn?_tokens program ({} : Assembly Unit Instruction)
  obtain ⟨⟨block, frames⟩, ha, hpasses⟩ := (parse_eq_ok_iff.mp accepted).exists_passes htakeIn
  obtain rfl : frames = [] := by
    rw [← Assembly.frames_anonymous_eq_nil (a := ⟨block, frames⟩), ha]
  obtain rfl : block = program.reverse := by
    have hblock := congrArg Assembly.block ha
    simpa using hblock
  exact hpasses

/-- If the reading of a source ends like that of another one at another place and behind other
statements, so does what it holds. -/
theorem parse_eq_of_ofSource {source other : Text} {f : Nat → Nat} {front : Program}
    (h : (Reading.ofSource source).outcome =
      ((Reading.ofSource other).relocate f front).outcome) :
    parse source = ((parse other).map (front.reverse ++ ·)).mapError
      fun e => ⟨e.toFault.relocate f, source⟩ := by
  rw [parse, parse, h, Reading.Result.relocate]
  cases (Reading.ofSource other).outcome <;> rfl

/-! ### Gaps -/

/-- A gap behind a text that is read to its end moves what follows, and changes nothing else. -/
theorem Reading.Passes.parse_append_gap {text gap : Text} {a : Assembly Nat Instruction}
    (h : Passes text a) (hgap : IsGap gap) (rest : Text) :
    parse (text ++ (gap ++ rest)) = (parse (text ++ rest)).mapError fun e =>
      ⟨⟨e.reason, pushFrom text.length gap.length e.offset⟩, text ++ (gap ++ rest)⟩ := by
  -- The brackets that the text leaves open stay where they are, and the cursor moves.
  have hassembly : a.relocate (pushFrom text.length gap.length) [] = a :=
    Assembly.relocate_eq_self fun frame hframe => pushFrom_of_lt (h.bracket_lt frame hframe) _
  have hmoved : (⟨⟨text.length, rest⟩, a⟩ : Reading).relocate (pushFrom text.length gap.length) [] =
      ⟨⟨text.length + gap.length, rest⟩, a⟩ := by
    rw [relocate, hassembly, Cursor.relocate, pushFrom_self]
  have hrun : ofSource (text ++ (gap ++ rest)) =
      (ofSource (text ++ rest)).relocate (pushFrom text.length gap.length) [] := by
    rw [ofSource, ofSource, h.run_eq, h.run_eq, run_gap_append hgap, ← hmoved]
    exact run_relocate _ (shiftsFrom_pushFrom _ _) []
  rw [parse_eq_of_ofSource (congrArg Result.outcome hrun)]
  cases parse (text ++ rest) <;> rfl

/-- A gap may stand behind any text that lacks nothing but closing brackets: the program is the same
with the gap and without it, and so are the reason of a fault and its place, which moves if it lies
behind the gap. -/
theorem parse_append_gap_append {text gap : Text} {n : Nat} {closed : Program}
    (opened : parse (text ++ List.replicate n ']') = .ok closed) (hgap : IsGap gap) (rest : Text) :
    (∀ program, parse (text ++ gap ++ rest) = .ok program ↔ parse (text ++ rest) = .ok program) ∧
      ∀ e, parse (text ++ rest) = .error e →
        parse (text ++ gap ++ rest) = .error
          ⟨⟨e.reason, if e.offset < text.length then e.offset else e.offset + gap.length⟩,
            text ++ gap ++ rest⟩ := by
  obtain ⟨a, hpasses⟩ := exists_passes_of_parse_append opened
  rw [List.append_assoc, hpasses.parse_append_gap hgap]
  constructor
  · intro program
    cases parse (text ++ rest) with
    | ok other => rfl
    | error e => constructor <;> intro h <;> cases h
  · intro e rejected
    rw [rejected]
    rfl

/-- A comment that holds a colon, between two loops that are open and what follows: brackets that
close them, one more open bracket, or a single colon. -/
theorem parse_append_gap_append_loop :
    parse "[-[#]#::]::]]".toList = .ok [.loop [.leaf (.cell .add (-1)),
        .loop [.leaf (.insert [']'])]]] ∧
      parse "[-[#]#::]::#:#\n]]".toList = .ok [.loop [.leaf (.cell .add (-1)),
        .loop [.leaf (.insert [']'])]]] ∧
      parse "[-[#]#::]::[".toList = .error ⟨⟨.unterminatedLoop, 0⟩, "[-[#]#::]::[".toList⟩ ∧
      parse "[-[#]#::]::#:#\n[".toList =
        .error ⟨⟨.unterminatedLoop, 0⟩, "[-[#]#::]::#:#\n[".toList⟩ ∧
      parse "[-[#]#::]:::".toList = .error ⟨⟨.unexpected ':', 11⟩, "[-[#]#::]:::".toList⟩ ∧
      parse "[-[#]#::]::#:#\n:".toList =
        .error ⟨⟨.unexpected ':', 15⟩, "[-[#]#::]::#:#\n:".toList⟩ := by
  have opened : parse ("[-[#]#::]::".toList ++ List.replicate 2 ']') =
      .ok [.loop [.leaf (.cell .add (-1)), .loop [.leaf (.insert [']'])]]] := by
    with_unfolding_all rfl
  have hcomment : '#' ∉ [':'] := by decide
  have hgap : IsGap "#:#\n".toList := .comment hcomment (.blank (by decide) .nil)
  have hloop : parse "[-[#]#::]::[".toList =
      .error ⟨⟨.unterminatedLoop, 0⟩, "[-[#]#::]::[".toList⟩ := by
    with_unfolding_all rfl
  have hcolon : parse "[-[#]#::]:::".toList =
      .error ⟨⟨.unexpected ':', 11⟩, "[-[#]#::]:::".toList⟩ := by
    with_unfolding_all rfl
  exact ⟨opened, ((parse_append_gap_append opened hgap [']', ']']).1 _).mpr opened,
    hloop, (parse_append_gap_append opened hgap ['[']).2 _ hloop,
    hcolon, (parse_append_gap_append opened hgap [':']).2 _ hcolon⟩

/-! ### Programs in front and brackets around -/

/-- What stands behind a program is read as it is alone, with the statements of the program in
front, and with its faults moved. -/
theorem parse_append_eq {source : Text} {program : Program} (accepted : parse source = .ok program)
    (rest : Text) :
    parse (source ++ rest) = ((parse rest).map (program ++ ·)).mapError fun e =>
      ⟨⟨e.reason, source.length + e.offset⟩, source ++ rest⟩ := by
  have hshifts : ShiftsFrom (source.length + ·) 0 := by
    intro n
    simp
  have hmoved : (Reading.start rest).relocate (source.length + ·) program.reverse =
      ⟨⟨source.length, rest⟩, ⟨program.reverse, []⟩⟩ := rfl
  have hrun : Reading.ofSource (source ++ rest) =
      (Reading.ofSource rest).relocate (source.length + ·) program.reverse := by
    rw [Reading.ofSource, Reading.ofSource, (passes_of_parse accepted).run_eq, ← hmoved,
      Reading.run_relocate _ hshifts]
  rw [parse_eq_of_ofSource (congrArg Reading.Result.outcome hrun), List.reverse_reverse]
  rfl

/-- A program in brackets is a loop around it. -/
theorem parse_brackets {source : Text} {program : Program}
    (accepted : parse source = .ok program) :
    parse ('[' :: source ++ [']']) = .ok [.loop program] := by
  rw [parse_eq_ok_iff] at accepted ⊢
  rw [Block.tokens_loop, Block.tokens_nil]
  exact .cons .nil .opening (accepted.append (.word .closing))

/-- Sources are read part by part. Behind a program, a source that holds a program adds its
statements, and one that holds none is rejected for the same reason at the same character. A program
in brackets is a single loop. -/
theorem parse_append_of_parse {source : Text} {program : Program}
    (accepted : parse source = .ok program) :
    (∀ rest other, parse rest = .ok other → parse (source ++ rest) = .ok (program ++ other)) ∧
      (∀ rest e, parse rest = .error e → ∃ moved, parse (source ++ rest) = .error moved ∧
        moved.reason = e.reason ∧ moved.offset = source.length + e.offset ∧
        moved.remaining = e.remaining) ∧
      parse ('[' :: source ++ [']']) = .ok [.loop program] := by
  refine ⟨fun rest other hrest => ?_, fun rest e hrest => ?_, parse_brackets accepted⟩
  · rw [parse_append_eq accepted, hrest]
    rfl
  · obtain rfl : e.source = rest := (outcome_of_parse_error hrest).2
    rw [parse_append_eq accepted, hrest]
    refine ⟨_, rfl, rfl, rfl, ?_⟩
    rw [SyntaxError.remaining, SyntaxError.remaining, List.drop_append, List.drop_of_length_le]
    · simp
    · simp

/-- Two colons at the end of an insert and one behind it are not taken for another insert. -/
theorem parse_append_of_parse_colons :
    parse "::a::".toList = .ok [.leaf (.insert ['a'])] ∧
      parse "::a::::b::".toList = .ok [.leaf (.insert ['a']), .leaf (.insert ['b'])] ∧
      (∃ e, parse "::a:::".toList = .error e ∧ e.reason = .unexpected ':' ∧ e.offset = 5 ∧
        e.remaining = [':']) ∧
      parse "[::a::]".toList = .ok [.loop [.leaf (.insert ['a'])]] := by
  have accepted : parse "::a::".toList = .ok [.leaf (.insert ['a'])] := by
    with_unfolding_all rfl
  have hother : parse "::b::".toList = .ok [.leaf (.insert ['b'])] := by
    with_unfolding_all rfl
  have hcolon : parse [':'] = .error ⟨⟨.unexpected ':', 0⟩, [':']⟩ := by
    with_unfolding_all rfl
  obtain ⟨happend, hrejected, hbrackets⟩ := parse_append_of_parse accepted
  exact ⟨accepted, happend _ _ hother, hrejected _ _ hcolon, hbrackets⟩

end TapeCompiler
