import TapeCompiler.Proofs.Program.Picture
import TapeCompiler.Proofs.Source.Composition

/-!
# Reading any printed program

The printed form of a program may show instructions that no source can hold. If there is none, the
program is read back without its moves by nothing. Otherwise the reader goes as far as the first of
them: all that is printed in front of it is read, brackets that are still open included. There it
stops at the parenthesis, if the sign alone is an instruction of the source, or else at the sign. So
a printed program is never read back as another one.

## Main definitions

* `Instruction.IsReadable` — an instruction that is read back, or leaves no trace
* `Obstructs` — the fault at which the reading of an instruction ends

## Main results

* `exists_passes_of_visits` — what is printed in front of the first obstacle is read
* `ShowsNumber.exists_obstructs` — a sign with a number behind a text that is read
* `parse_text_of_enclosable` — what comes of reading a printed program
-/

namespace TapeCompiler

/-- An instruction of which the printed form can stand in a source: it has a spelling there, or it
is a move by nothing. -/
def Instruction.IsReadable (i : Instruction) : Prop :=
  i.IsBare ∨ i = .move 0

/-- The reading of an instruction that shows a number, and stands at the given place, ends with a
fault. -/
inductive Obstructs (offset : Nat) : Instruction → Fault → Prop
  /-- The sign of a move is read, and the parenthesis behind it is not. -/
  | move {n : Int32} : Obstructs offset (.move n) ⟨.unexpected '(', offset + 1⟩
  /-- The sign of an addition is read, and the parenthesis behind it is not. -/
  | add {n : Int32} : Obstructs offset (.cell .add n) ⟨.unexpected '(', offset + 1⟩
  /-- The sign of any other change is not read. -/
  | cell {op : Operator} {n : Int32} (hop : op ≠ .add) :
      Obstructs offset (.cell op n) ⟨.unexpected op.symbol, offset⟩

/-! ### In front of the first obstacle -/

theorem Visit.flatMap_text (visits : List (Visit Instruction)) :
    visits.flatMap (Visit.text Instruction.text) = (visits.map Visit.token).flatMap Token.text := by
  rw [List.flatMap_map]
  congr 1
  funext v
  exact v.text_eq

/-- Readable tokens are printed as a row of those that leave a trace. -/
theorem isRow_flatMap_text {ts : List (Token Instruction)}
    (h : ∀ i, Token.leaf i ∈ ts → i.IsReadable) :
    IsRow (ts.flatMap Token.text) (ts.filter (· ≠ .leaf (.move 0))) := by
  rw [← flatMap_text_filter]
  apply IsRow.text
  intro t ht
  obtain ⟨hmem, hidle⟩ := List.mem_filter.mp ht
  cases t with
  | opening => exact .opening
  | closing => exact .closing
  | leaf i =>
    have hi : i ≠ .move 0 := by simpa using hidle
    exact ((h i hmem).resolve_right hi).spells

/-- What is printed in front of a step of the walk is read to its end, if all of it is readable. -/
theorem exists_passes_of_visits {program : Program} {before after : List (Visit Instruction)}
    {v : Visit Instruction} (hvisits : program.visits = before ++ v :: after)
    (hbefore : ∀ i, Visit.leaf i ∈ before → i.IsReadable) :
    ∃ a, Reading.Passes (before.flatMap (Visit.text Instruction.text)) a := by
  have hreadable : ∀ i, Token.leaf i ∈ before.map Visit.token → i.IsReadable := by
    intro i hi
    obtain ⟨w, hw, heq⟩ := List.mem_map.mp hi
    cases w with
    | leaf j =>
      cases heq
      exact hbefore i hw
    | enter body => cases heq
    | leave => cases heq
  -- The tokens in front are taken in, since those of the program without idle moves are.
  have htakeIn := Assembly.takeIn?_tokens program.withoutIdle ({} : Assembly Unit Instruction)
  rw [Program.tokens_withoutIdle, Block.tokens, hvisits, List.map_append, List.filter_append,
    Assembly.takeIn?_append] at htakeIn
  obtain ⟨b, hb, -⟩ := Option.bind_eq_some_iff.mp htakeIn
  rw [Visit.flatMap_text]
  obtain ⟨a, -, hpasses⟩ := (isRow_flatMap_text hreadable).exists_passes hb
  exact ⟨a, hpasses⟩

/-! ### At the first obstacle -/

/-- A sign that is a word of its own is read, and the parenthesis behind it is reported. -/
theorem Reading.Passes.parse_append_parenthesis {text : Text} {a : Assembly Nat Instruction}
    (h : Passes text a) {sign : Char} {i : Instruction} (hsign : Spells [sign] (.leaf i))
    (rest : Text) :
    parse (text ++ sign :: '(' :: rest) =
      .error ⟨⟨.unexpected '(', text.length + 1⟩, text ++ sign :: '(' :: rest⟩ := by
  have hpasses : Passes (text ++ [sign]) (a.add i) := h.append_word hsign rfl
  have hparenthesis : parse ((text ++ [sign]) ++ '(' :: rest) = _ :=
    hpasses.parse_append_unexpected (by decide) (by decide)
      (fun hcolons => absurd hcolons.1 (by decide))
  simpa using hparenthesis

/-- Behind a text that is read, the printed form of an instruction with a number is not. -/
theorem ShowsNumber.exists_obstructs {text : Text} {i : Instruction} (h : ShowsNumber text i)
    {front : Text} {a : Assembly Nat Instruction} (hpasses : Reading.Passes front a)
    (rest : Text) :
    ∃ fault, Obstructs front.length i fault ∧
      parse (front ++ (text ++ rest)) = .error ⟨fault, front ++ (text ++ rest)⟩ := by
  cases h with
  | @move sign n hsign =>
    have hword : ∃ j, Spells [sign] (.leaf j) := by
      simp only [List.mem_cons, List.not_mem_nil, or_false] at hsign
      rcases hsign with rfl | rfl
      · exact ⟨_, .forward⟩
      · exact ⟨_, .backward⟩
    obtain ⟨j, hword⟩ := hword
    exact ⟨_, .move, hpasses.parse_append_parenthesis hword _⟩
  | @cell op n =>
    by_cases hop : op = .add
    · subst hop
      exact ⟨_, .add, hpasses.parse_append_parenthesis .increment _⟩
    · refine ⟨_, .cell hop, hpasses.parse_append_unexpected ?_ ?_ ?_⟩
      · cases op <;> decide
      · cases op with
        | add => exact absurd rfl hop
        | _ => decide
      · exact fun hcolons => by cases op <;> exact absurd hcolons.1 (by decide)

/-! ### Whole programs -/

/-- A program of readable instructions is read back without its moves by nothing. -/
theorem parse_text_of_readable {program : Program}
    (h : program.EveryLeaf Instruction.IsReadable) :
    parse (Program.text program) = .ok (Program.withoutIdle program) := by
  rw [parse_eq_ok_iff, Program.tokens_withoutIdle, Program.text_eq_flatMap]
  exact isRow_flatMap_text (Block.everyLeaf_iff.mp h)

/-- Reading a printed program ends at the first instruction of the walk that is not readable. -/
theorem exists_obstructs_of_visits {program : Program}
    (enclosable : program.EveryLeaf Instruction.IsEnclosable)
    {before after : List (Visit Instruction)} {i : Instruction}
    (hvisits : program.visits = before ++ .leaf i :: after)
    (hbefore : ∀ j, Visit.leaf j ∈ before → j.IsReadable) (hi : ¬ i.IsReadable) :
    ∃ fault, Obstructs (before.flatMap (Visit.text Instruction.text)).length i fault ∧
      parse (Program.text program) = .error ⟨fault, Program.text program⟩ := by
  obtain ⟨a, hpasses⟩ := exists_passes_of_visits hvisits hbefore
  -- The instruction leaves a trace and has no spelling, so it is printed with a number.
  have henclosable : i.IsEnclosable := by
    apply Block.everyLeaf_iff.mp enclosable
    rw [Block.leaf_mem_tokens, hvisits]
    simp
  obtain ⟨hbare, hidle⟩ := not_or.mp hi
  have hnumber := (henclosable.isBare_or_showsNumber hidle).resolve_left hbare
  have htext : Program.text program = before.flatMap (Visit.text Instruction.text) ++
      (i.text ++ after.flatMap (Visit.text Instruction.text)) := by
    rw [Program.text, ← List.flatMap_def, hvisits, List.flatMap_append, List.flatMap_cons]
    rfl
  rw [htext]
  exact hnumber.exists_obstructs hpasses _

/-- A printed program is read back without its moves by nothing if it shows nothing that cannot
stand in a source. Otherwise the first instruction of the walk that cannot is the place of a syntax
error, behind all that is printed in front of it. -/
theorem parse_text_of_enclosable {program : Program}
    (enclosable : program.EveryLeaf Instruction.IsEnclosable) :
    (program.EveryLeaf Instruction.IsReadable →
        parse (Program.text program) = .ok (Program.withoutIdle program)) ∧
      (¬ program.EveryLeaf Instruction.IsReadable →
        ∃ before i after, program.visits = before ++ .leaf i :: after ∧
          (∀ j, Visit.leaf j ∈ before → j.IsReadable) ∧ ¬ i.IsReadable ∧
          ∃ fault, Obstructs (before.flatMap (Visit.text Instruction.text)).length i fault ∧
            parse (Program.text program) = .error ⟨fault, Program.text program⟩) := by
  refine ⟨parse_text_of_readable, fun hnot => ?_⟩
  obtain ⟨before, i, after, hvisits, hbefore, hi⟩ := Block.exists_first_leaf hnot
  exact ⟨before, i, after, hvisits, hbefore, hi,
    exists_obstructs_of_visits enclosable hvisits hbefore hi⟩

/-- Moves by nothing vanish, and a longer move in a loop is an obstacle. -/
theorem parse_text_of_enclosable_loops :
    parse (Program.text [.loop [.leaf (.move 0), .leaf (.insert [':', 'a'])], .leaf (.move 0)]) =
        .ok [.loop [.leaf (.insert [':', 'a'])]] ∧
      ∃ before i after,
        Block.visits [.loop [.leaf (.cell .add 1), .leaf (Instruction.move (-3))],
            .leaf (.cell .mod 7)] = before ++ .leaf i :: after ∧
          (∀ j, Visit.leaf j ∈ before → j.IsReadable) ∧ ¬ i.IsReadable ∧
          ∃ fault, Obstructs (before.flatMap (Visit.text Instruction.text)).length i fault ∧
            parse "[+<(-3)]%(7)".toList = .error ⟨fault, "[+<(-3)]%(7)".toList⟩ := by
  have hinsert : ¬ [':', ':'] <:+: [':', 'a'] ∧ ¬ [':'] <:+ [':', 'a'] := by decide
  have hidle : Block.EveryLeaf Instruction.IsEnclosable
      [.loop [.leaf (.move 0), .leaf (.insert [':', 'a'])], .leaf (.move 0)] := by
    simp [Instruction.IsEnclosable, hinsert]
  have hlonger : Block.EveryLeaf Instruction.IsEnclosable
      [.loop [.leaf (.cell .add 1), .leaf (.move (-3))], .leaf (.cell .mod 7)] := by
    simp [Instruction.IsEnclosable]
  constructor
  · have hread := (parse_text_of_enclosable hidle).1
      (by simp [Instruction.IsReadable, Instruction.IsBare, hinsert])
    simpa only [Program.withoutIdle, if_pos, reduceCtorEq, if_false, List.nil_append,
      List.append_nil] using hread
  · have htext : Program.text [.loop [.leaf (.cell .add 1), .leaf (.move (-3))],
        .leaf (.cell .mod 7)] = "[+<(-3)]%(7)".toList := by
      with_unfolding_all rfl
    rw [← htext]
    exact (parse_text_of_enclosable hlonger).2
      (by simp [Instruction.IsReadable, Instruction.IsBare])

end TapeCompiler
