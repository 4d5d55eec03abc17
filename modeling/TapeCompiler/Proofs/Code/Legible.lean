import TapeCompiler.Proofs.Machine.CodeListing

/-!
# Code that tells what was compiled

The code of a draft can be read back: two drafts have the same code only if they are the same tree,
and were compiled for the same tape. The indentation does not matter, as long as it is a single
line: where the same statements stand in front, the margins are the same, and what is behind the
margins is compared. An insert is told by the line behind it, which therefore must not be one of its
own lines.

The two trees are compared along their walk. What follows a block is the end of a loop or the end of
the program, and neither of them can be taken for the first line of a statement.

## Main definitions

* `Item.IsDelimited` — no line of an insert looks like the line behind it
* `C.draftLines` — the lines of a row of tokens of a draft
* `C.EndsAt` — what stands behind a block

## Main results

* `C.statement_append_inj` — the lines of an instruction tell it, whatever follows them
* `C.draftLines_append_inj` — the lines of a block tell it, if its end follows them
* `Draft.lines_of_generate` — the lines of the code of a draft
* `Draft.generate_text_inj` — the code of a draft tells the draft and the sizes of the tape
-/

namespace TapeCompiler

/-- An item of which no line looks like the line behind an insert. -/
def Item.IsDelimited (a : Item) : Prop :=
  ∀ t, a = .instr (.insert t) → C.insertEnd ∉ t.splitLines

/-- An item with lines that tell it. -/
def Item.IsLegible (a : Item) : Prop :=
  ∃ i, a = .instr i ∧ (Item.instr i).IsDelimited

/-! ### Margins -/

theorem Lines.indented_injective (margin : Text) : Function.Injective (indented margin) := by
  intro line other h
  by_cases hline : line = [] <;> by_cases hother : other = []
  · rw [hline, hother]
  · simp [indented, hline, hother] at h
  · simp [indented, hline, hother] at h
  · simpa [indented, hline, hother] using h

theorem Text.length_times_le {depth other : Int} (h : depth ≤ other) (level : Text) :
    (level.times depth).length ≤ (level.times other).length := by
  rw [length_times, length_times]
  exact Nat.mul_le_mul_right _ (Int.toNat_le_toNat h)

/-! ### Instructions -/

/-- The instruction that becomes a statement, if there is one. -/
def Statement.instruction? : Statement → Option Instruction
  | move offset => some (.move (.ofInt offset))
  | cell op operand => some (.cell op (.ofInt operand))
  | put => some .output
  | get => some .input
  | comment => some (.move 0)
  | _ => none

theorem Statement.instruction?_ofToken {i : Instruction} (h : ∀ t, i ≠ .insert t) :
    (ofToken (.leaf i)).instruction? = some i := by
  cases i with
  | move offset =>
    rw [ofToken]
    split_ifs with hzero
    · rw [hzero, instruction?]
    · rw [instruction?, Int32.ofInt_toInt]
  | cell op operand => rw [ofToken, instruction?, Int32.ofInt_toInt]
  | output => rfl
  | input => rfl
  | insert t => exact absurd rfl (h t)

namespace C

theorem eq_of_means {i j : Instruction} {line : Text} (hi : ∀ t, i ≠ .insert t)
    (hj : ∀ t, j ≠ .insert t) (hline : Statement.Means line (.ofToken (.leaf i)))
    (hline' : Statement.Means line (.ofToken (.leaf j))) : i = j := by
  -- Reading the line gives both statements, and a statement leads back to its instruction.
  have hread := hline.ofLine?_dedent.symm.trans hline'.ofLine?_dedent
  have hback := congrArg Statement.instruction? (Option.some.inj hread)
  rw [Statement.instruction?_ofToken hi, Statement.instruction?_ofToken hj] at hback
  exact Option.some.inj hback

/-- No other instruction begins as an insert does. -/
theorem insert_append_ne {i : Instruction} (hi : ∀ t, i ≠ .insert t) (t : Text) (margin : Text)
    (rest rest' : List Text) :
    (statement (.insert t)).map (Lines.indented margin) ++ rest ≠
      (statement i).map (Lines.indented margin) ++ rest' := by
  intro h
  obtain ⟨line, hline, hmeans⟩ := Statement.exists_means_instruction hi
  rw [hline] at h
  -- The line of the other instruction can be read as a statement, the comment cannot.
  obtain rfl := Lines.indented_injective margin (List.cons.inj h).1
  have hread : Statement.ofLine? (Listing.dedent insertStart) = none := by decide
  rw [hmeans.ofLine?_dedent] at hread
  cases hread

/-- An insert ends at the first line that looks like the one behind it. -/
theorem insert_append_inj {t u : Text} (ht : insertEnd ∉ t.splitLines)
    (hu : insertEnd ∉ u.splitLines) (margin : Text) {rest rest' : List Text}
    (h : (statement (.insert t)).map (Lines.indented margin) ++ rest =
      (statement (.insert u)).map (Lines.indented margin) ++ rest') : t = u ∧ rest = rest' := by
  have hinjective := Lines.indented_injective margin
  have hend : ∀ v : Text, insertEnd ∉ v.splitLines →
      Lines.indented margin insertEnd ∉ v.splitLines.map (Lines.indented margin) := by
    intro v hv
    rwa [List.mem_map_of_injective hinjective]
  simp only [statement, List.map_append, List.map_cons, List.map_nil, List.cons_append,
    List.append_assoc, List.nil_append, List.cons.injEq, true_and] at h
  obtain ⟨hlines, hrest⟩ := eq_of_append_cons_eq (hend t ht) (hend u hu) h
  exact ⟨Text.splitLines_injective (hinjective.list_map hlines), hrest⟩

/-- The lines of an instruction tell it, whatever follows them. -/
theorem statement_append_inj {i j : Instruction} (hi : (Item.instr i).IsDelimited)
    (hj : (Item.instr j).IsDelimited) (margin : Text) {rest rest' : List Text}
    (h : (statement i).map (Lines.indented margin) ++ rest =
      (statement j).map (Lines.indented margin) ++ rest') : i = j ∧ rest = rest' := by
  -- An insert has several lines and ends at a line of its own; all the others are a single line.
  by_cases hi_insert : ∃ t, i = .insert t <;> by_cases hj_insert : ∃ u, j = .insert u
  · obtain ⟨t, rfl⟩ := hi_insert
    obtain ⟨u, rfl⟩ := hj_insert
    obtain ⟨rfl, hrest⟩ := insert_append_inj (hi t rfl) (hj u rfl) margin h
    exact ⟨rfl, hrest⟩
  · obtain ⟨t, rfl⟩ := hi_insert
    exact absurd h (insert_append_ne (not_exists.mp hj_insert) t margin rest rest')
  · obtain ⟨u, rfl⟩ := hj_insert
    exact absurd h.symm (insert_append_ne (not_exists.mp hi_insert) u margin rest' rest)
  · rw [not_exists] at hi_insert hj_insert
    obtain ⟨line, hline, hmeans⟩ := Statement.exists_means_instruction hi_insert
    obtain ⟨line', hline', hmeans'⟩ := Statement.exists_means_instruction hj_insert
    rw [hline, hline'] at h
    obtain ⟨heq, hrest⟩ := List.cons.inj h
    obtain rfl := Lines.indented_injective margin heq
    exact ⟨eq_of_means hi_insert hj_insert hmeans hmeans', hrest⟩

/-! ### Blocks -/

/-- The lines of an item. A foreign statement has none. -/
def item : Item → List Text
  | .instr i => statement i
  | .foreign _ => []

/-- The lines of a row of tokens of a draft, from a depth on. -/
def draftLines (indent : Text) : Int → List (Token Item) → List Text :=
  Token.lines (fun depth => Lines.indented (indent.times depth)) item loopOpening loopEnding

/-- A block comes to its end: the end of a loop follows, or the last statement of the program. -/
inductive EndsAt (indent : Text) (depth : Int) : List Text → Prop
  /-- The end of a loop. -/
  | loop (rest : List Text) :
      EndsAt indent depth (Lines.indented (indent.times (depth - 1)) loopEnding :: rest)
  /-- The last statement of the program. -/
  | program (rest : List Text) :
      EndsAt indent depth (Lines.indented (indent.times depth) "return 0;".toList :: rest)

/-- Neither end of a block can be taken for a longer line that stands one level deeper. -/
theorem not_endsAt {line : Text} (hlength : 1 < line.length) (hline : line ≠ "return 0;".toList)
    (indent : Text) (depth : Int) (rest : List Text) :
    ¬ EndsAt indent depth (Lines.indented (indent.times depth) line :: rest) := by
  intro h
  generalize htext : Lines.indented (indent.times depth) line = text at h
  cases h with
  | loop =>
    -- The margin is at least as long here, and the brace is shorter than the line.
    have hmargin := Text.length_times_le (Int.sub_le_self depth (by decide : 0 ≤ (1 : Int))) indent
    have hne : line ≠ [] := by
      rintro rfl
      simp at hlength
    have htotal := congrArg List.length htext
    simp only [Lines.indented, if_neg hne, loopEnding, List.length_append, List.cons_ne_nil,
      if_false, List.length_singleton] at htotal
    omega
  | program => exact hline (Lines.indented_injective _ htext)

/-- The first line of an instruction. -/
theorem exists_statement_eq_cons (i : Instruction) :
    ∃ line others, statement i = line :: others ∧ 1 < line.length ∧ line ≠ "return 0;".toList ∧
      line ≠ loopOpening := by
  cases i with
  | move offset =>
    refine ⟨move offset, [], rfl, ?_⟩
    unfold move
    -- All these lines differ from the others in their first character.
    split_ifs <;> exact ⟨by simp, by simp, fun h => by cases h⟩
  | cell op operand => exact ⟨_, [], rfl, by simp, by simp, fun h => by cases h⟩
  | output => exact ⟨_, [], rfl, by decide, by decide, by decide⟩
  | input => exact ⟨_, [], rfl, by decide, by decide, by decide⟩
  | insert t => exact ⟨_, _, rfl, by decide, by decide, by decide⟩

theorem draftLines_nil (indent : Text) (depth : Int) :
    draftLines indent depth (Block.tokens []) = [] := by
  rw [draftLines, Block.tokens_nil, Token.lines]

theorem draftLines_leaf (indent : Text) (depth : Int) (i : Instruction) (rest : Draft) :
    draftLines indent depth (Block.tokens (.leaf (.instr i) :: rest)) =
      (statement i).map (Lines.indented (indent.times depth)) ++
        draftLines indent depth rest.tokens := by
  rw [draftLines, Block.tokens_leaf, Token.lines, item]

theorem draftLines_loop (indent : Text) (depth : Int) (body rest : Draft) :
    draftLines indent depth (Block.tokens (.loop body :: rest)) =
      Lines.indented (indent.times depth) loopOpening ::
        (draftLines indent (depth + 1) body.tokens ++
          Lines.indented (indent.times depth) loopEnding ::
            draftLines indent depth rest.tokens) :=
  Token.lines_loop _ _ _ _ depth body rest

/-- A block that is not empty does not begin as the end of a block does. -/
theorem not_endsAt_draftLines {indent : Text} {depth : Int} {node : Node Item} {others : Draft}
    (h : Block.EveryLeaf Item.IsLegible (node :: others)) (rest : List Text) :
    ¬ EndsAt indent depth (draftLines indent depth (Block.tokens (node :: others)) ++ rest) := by
  cases h with
  | leaf ha _ =>
    obtain ⟨i, rfl, -⟩ := ha
    obtain ⟨line, more, hline, hlength, hreturn, -⟩ := exists_statement_eq_cons i
    rw [draftLines_leaf, hline]
    exact not_endsAt hlength hreturn indent depth _
  | loop _ _ =>
    rw [draftLines_loop]
    exact not_endsAt (by decide) (by decide) indent depth _

theorem draftLines_leaf_ne_loop (indent : Text) (depth : Int) (i : Instruction)
    (body others others' : Draft) (rest rest' : List Text) :
    draftLines indent depth (Block.tokens (.leaf (.instr i) :: others)) ++ rest ≠
      draftLines indent depth (Block.tokens (.loop body :: others')) ++ rest' := by
  intro h
  obtain ⟨line, more, hline, -, -, hloop⟩ := exists_statement_eq_cons i
  rw [draftLines_leaf, draftLines_loop, hline] at h
  exact hloop (Lines.indented_injective _ (List.cons.inj h).1)

/-- The lines of a block tell it, if its end follows them. -/
theorem draftLines_append_inj {indent : Text} {block other : Draft}
    (hblock : block.EveryLeaf Item.IsLegible) (hother : other.EveryLeaf Item.IsLegible)
    {depth : Int} {rest rest' : List Text} (hrest : EndsAt indent depth rest)
    (hrest' : EndsAt indent depth rest')
    (h : draftLines indent depth block.tokens ++ rest =
      draftLines indent depth other.tokens ++ rest') : block = other ∧ rest = rest' := by
  -- Both blocks are walked through together: as long as one goes on, its next line tells how, and
  -- the other one has to go on in the same way.
  induction hblock generalizing other depth rest rest' with
  | nil =>
    cases other with
    | nil => exact ⟨rfl, by simpa using h⟩
    | cons node others =>
      -- The other block goes on where this one has come to its end.
      rw [draftLines_nil, List.nil_append] at h
      exact absurd (h ▸ hrest) (not_endsAt_draftLines hother rest')
  | @leaf a others ha hothers ih =>
    obtain ⟨i, rfl, hi⟩ := ha
    cases hother with
    | nil =>
      rw [draftLines_nil, List.nil_append] at h
      exact absurd (h ▸ hrest') (not_endsAt_draftLines (.leaf ⟨i, rfl, hi⟩ hothers) rest)
    | loop _ _ => exact absurd h (draftLines_leaf_ne_loop _ _ _ _ _ _ _ _)
    | leaf hb hothers' =>
      obtain ⟨j, rfl, hj⟩ := hb
      rw [draftLines_leaf, draftLines_leaf, List.append_assoc, List.append_assoc] at h
      obtain ⟨rfl, hmore⟩ := statement_append_inj hi hj _ h
      obtain ⟨rfl, hrests⟩ := ih hothers' hrest hrest' hmore
      exact ⟨rfl, hrests⟩
  | @loop body others hbody hothers ih_body ih_others =>
    cases hother with
    | nil =>
      rw [draftLines_nil, List.nil_append] at h
      exact absurd (h ▸ hrest') (not_endsAt_draftLines (.loop hbody hothers) rest)
    | leaf hb _ =>
      obtain ⟨j, rfl, -⟩ := hb
      exact absurd h.symm (draftLines_leaf_ne_loop _ _ _ _ _ _ _ _)
    | loop hbody' hothers' =>
      rw [draftLines_loop, draftLines_loop] at h
      simp only [List.cons_append, List.append_assoc] at h
      -- Both bodies are followed by the end of their loop, one level deeper.
      have hend : ∀ more, EndsAt indent (depth + 1)
          (Lines.indented (indent.times depth) loopEnding :: more) := by
        intro more
        have hloop := @EndsAt.loop indent (depth + 1) more
        rwa [Int.add_sub_cancel] at hloop
      obtain ⟨rfl, hmore⟩ := ih_body hbody' (hend _) (hend _) (List.cons.inj h).2
      obtain ⟨rfl, hrests⟩ := ih_others hothers' hrest hrest' (List.cons.inj hmore).2
      exact ⟨rfl, hrests⟩

/-! ### The whole code -/

/-- The lines of the code of a draft, which then holds no foreign statement. -/
theorem lines_of_code_items {ε : Type} {indent : Text} {draft : Draft} {pre post : Nat}
    {code : Code} (h : ((backend (.ofText indent)).items : Backend Item (Item.Fault ε)).code draft
      pre post = .ok code) :
    code.lines = opening indent pre post ++ (draftLines indent 1 draft.tokens ++ ending indent) ∧
      ∀ label, Token.leaf (.foreign label) ∉ draft.tokens := by
  obtain ⟨first, last, s, hfirst, hemit, hlast, rfl⟩ := Backend.of_code_eq_ok h
  cases hfirst
  cases hlast
  -- A foreign statement would have been refused, so there are lines for every item.
  have hleaf : ∀ a, .leaf a ∈ draft.visits →
      ((backend (.ofText indent)).items : Backend Item (Item.Fault ε)).leaf a = .ok (item a) := by
    intro a ha
    obtain ⟨lines, hlines⟩ := Backend.exists_leaf_eq_ok hemit ha
    cases a with
    | instr i => rfl
    | foreign label => cases hlines
  have hmargin : ∀ depth,
      ((backend (.ofText indent)).items : Backend Item (Item.Fault ε)).indentation.margin depth =
        .ok (.ok (indent.times depth)) := fun _ => rfl
  rw [Backend.emitVisits_eq hmargin rfl rfl hleaf] at hemit
  cases hemit
  constructor
  · simp [draftLines, Block.tokens, Backend.items, backend, Indentation.ofText]
  · intro label hlabel
    cases hleaf _ (Block.leaf_mem_tokens.mp hlabel)

theorem opening_inj {indent : Text} {pre post pre' post' : Nat}
    (h : opening indent pre post = opening indent pre' post') : pre = pre' ∧ post = post' := by
  have hnumber : ∀ {m n : Nat}, Numeral.ofNat m = Numeral.ofNat n → m = n := by
    intro m n h
    have hread := congrArg Text.natural? h
    rwa [Text.natural?_ofNat, Text.natural?_ofNat, Option.some_inj] at hread
  -- Of the five lines, one tells the sum of the sizes and one the first of them.
  simp only [opening, List.append_assoc, List.cons.injEq, List.append_cancel_left_eq,
    List.append_cancel_right_eq, and_true, true_and] at h
  obtain ⟨hcells, hpre⟩ := h
  have hsum := hnumber hcells
  split_ifs at hpre with hzero hzero'
  · omega
  · cases hpre
  · cases hpre
  · have hpre := hnumber (List.append_cancel_left hpre)
    omega

/-! ### Line breaks -/

theorem lineBreak_not_mem_statement {i : Instruction} {line : Text} (h : line ∈ statement i) :
    '\n' ∉ line := by
  by_cases hinsert : ∃ t, i = .insert t
  · obtain ⟨t, rfl⟩ := hinsert
    simp only [statement, List.cons_append, List.mem_cons, List.mem_append, List.not_mem_nil,
      or_false] at h
    rcases h with rfl | h | rfl
    · decide
    · exact Text.lineBreak_not_mem_of_mem_splitLines h
    · decide
  · obtain ⟨single, hsingle, hmeans⟩ :=
      Statement.exists_means_instruction (not_exists.mp hinsert)
    rw [hsingle, List.mem_singleton] at h
    rw [h]
    exact hmeans.lineBreak_not_mem

theorem lineBreak_not_mem_indented {indent line : Text} (hindent : '\n' ∉ indent)
    (hline : '\n' ∉ line) (depth : Int) : '\n' ∉ Lines.indented (indent.times depth) line := by
  rw [Lines.indented]
  split_ifs
  · simp
  · rw [List.mem_append, not_or]
    exact ⟨fun h => hindent (Text.mem_of_mem_times h), hline⟩

theorem lineBreak_not_mem_draftLines {indent : Text} (hindent : '\n' ∉ indent) (depth : Int)
    {ts : List (Token Item)} {line : Text} (h : line ∈ draftLines indent depth ts) :
    '\n' ∉ line := by
  rw [draftLines] at h
  induction ts generalizing depth with
  | nil => cases h
  | cons t ts ih =>
    cases t with
    | leaf a =>
      rw [Token.lines, List.mem_append, List.mem_map] at h
      rcases h with ⟨line, hline, rfl⟩ | h
      · cases a with
        | instr i => exact lineBreak_not_mem_indented hindent (lineBreak_not_mem_statement hline) _
        | foreign label => cases hline
      · exact ih depth h
    | opening =>
      rw [Token.lines, List.mem_cons] at h
      rcases h with rfl | h
      · exact lineBreak_not_mem_indented hindent (by decide) _
      · exact ih _ h
    | closing =>
      rw [Token.lines, List.mem_cons] at h
      rcases h with rfl | h
      · exact lineBreak_not_mem_indented hindent (by decide) _
      · exact ih _ h

theorem lineBreak_not_mem_ending {indent line : Text} (hindent : '\n' ∉ indent)
    (h : line ∈ ending indent) : '\n' ∉ line := by
  simp only [ending, List.mem_cons, List.not_mem_nil, or_false] at h
  rcases h with rfl | rfl
  · simp [hindent]
  · decide

end C

namespace Draft

variable {draft other : Draft} {indent : Text} {pre post pre' post' : Nat} {code code' : Code}

/-- The lines of the code of a draft, which then holds no foreign statement. -/
theorem lines_of_generate
    (h : draft.generate (.text Target.c99.name) (.int pre) (.int post) (.text indent) = .ok code) :
    code.lines = C.opening indent pre post ++
        (C.draftLines indent 1 draft.tokens ++ C.ending indent) ∧
      ∀ label, Token.leaf (.foreign label) ∉ draft.tokens := by
  have htarget : Target.ofValue? (.text Target.c99.name) = some .c99 := rfl
  simp only [generate, htarget] at h
  exact C.lines_of_code_items (Backend.code_of_generate (of_mapError_eq_ok h))

/-- The lines of the code of a draft can be told apart in its text. -/
theorem splitLines_of_generate (hindent : '\n' ∉ indent)
    (h : draft.generate (.text Target.c99.name) (.int pre) (.int post) (.text indent) = .ok code) :
    code.text.splitLines = code.lines ++ [[]] := by
  obtain ⟨hlines, -⟩ := lines_of_generate h
  have hne : code.lines ≠ [] := by simp [hlines, C.opening]
  rw [Code.text_eq hne]
  apply Text.splitLines_endLines
  intro line hline
  rw [hlines, List.mem_append, List.mem_append] at hline
  rcases hline with hline | hline | hline
  · exact lineBreak_not_mem_opening hindent hline
  · exact C.lineBreak_not_mem_draftLines hindent 1 hline
  · exact C.lineBreak_not_mem_ending hindent hline

/-- Every item of a draft that has code is an instruction. -/
theorem isLegible_of_generate (hdraft : draft.EveryLeaf Item.IsDelimited)
    (h : draft.generate (.text Target.c99.name) (.int pre) (.int post) (.text indent) = .ok code) :
    draft.EveryLeaf Item.IsLegible := by
  obtain ⟨-, hforeign⟩ := lines_of_generate h
  rw [Block.everyLeaf_iff] at hdraft ⊢
  intro a ha
  cases a with
  | instr i => exact ⟨i, rfl, hdraft _ ha⟩
  | foreign label => exact absurd ha (hforeign label)

/-- The code of a draft tells the draft and the sizes of the tape, as long as the indentation stays
within a line and no line of an insert looks like the line behind the insert. -/
theorem generate_text_inj (hindent : '\n' ∉ indent) (hdraft : draft.EveryLeaf Item.IsDelimited)
    (hother : other.EveryLeaf Item.IsDelimited)
    (hcode : draft.generate (.text Target.c99.name) (.int pre) (.int post) (.text indent) =
      .ok code)
    (hcode' : other.generate (.text Target.c99.name) (.int pre') (.int post') (.text indent) =
      .ok code')
    (same : code.text = code'.text) : draft = other ∧ pre = pre' ∧ post = post' := by
  have hlines : code.lines = code'.lines := by
    have hsplit := congrArg Text.splitLines same
    rw [splitLines_of_generate hindent hcode, splitLines_of_generate hindent hcode'] at hsplit
    exact List.append_cancel_right hsplit
  rw [(lines_of_generate hcode).1, (lines_of_generate hcode').1] at hlines
  -- Both openings have five lines, so what stands behind them is the same too.
  obtain ⟨hopening, hrest⟩ := List.append_inj hlines rfl
  have hend : C.EndsAt indent 1 (C.ending indent) := by
    have hprogram := @C.EndsAt.program indent 1 [C.loopEnding]
    rwa [Text.times_one] at hprogram
  obtain ⟨rfl, -⟩ := C.draftLines_append_inj (isLegible_of_generate hdraft hcode)
    (isLegible_of_generate hother hcode') hend hend hrest
  exact ⟨rfl, C.opening_inj hopening⟩

/-- A loop around an insert with an empty line, and the longest move behind the loop or in it. The
indentation is a brace, like the line at the end of a loop. Still the place of the move can be told,
and so can two sizes with the same sum. -/
theorem generate_text_inj_loop :
    ∃ (draft other : Draft) (code codeOfOther codeOfSizes : Code),
      draft = [.loop [.leaf (.instr (.insert "a\n\n/*".toList))],
        .leaf (.instr (.move Int32.minValue))] ∧
      other = [.loop [.leaf (.instr (.insert "a\n\n/*".toList)),
        .leaf (.instr (.move Int32.minValue))]] ∧
      draft.EveryLeaf Item.IsDelimited ∧ other.EveryLeaf Item.IsDelimited ∧
      draft.generate (.text Target.c99.name) (.int 2) (.int 3) (.text ['\x7d']) = .ok code ∧
      code.text = Text.endLines ["#include <stdio.h>".toList, [], "int main(void) \x7b".toList,
        "\x7dstatic unsigned char cells[5] = \x7b0\x7d;".toList,
        "\x7dunsigned char *ptr = cells + 2;".toList,
        "\x7dwhile (*ptr) \x7b".toList,
        "\x7d\x7d/* Start of inserted section */".toList, "\x7d\x7da".toList, [],
        "\x7d\x7d/*".toList, "\x7d\x7d/* End of inserted section */".toList,
        "\x7d\x7d".toList, "\x7dptr -= 2147483648;".toList,
        "\x7dreturn 0;".toList, "\x7d".toList] ∧
      other.generate (.text Target.c99.name) (.int 2) (.int 3) (.text ['\x7d']) =
        .ok codeOfOther ∧ code.text ≠ codeOfOther.text ∧
      draft.generate (.text Target.c99.name) (.int 1) (.int 4) (.text ['\x7d']) =
        .ok codeOfSizes ∧ code.text ≠ codeOfSizes.text := by
  let insert : Node Item := .leaf (.instr (.insert "a\n\n/*".toList))
  let move : Node Item := .leaf (.instr (.move Int32.minValue))
  let draft : Draft := [.loop [insert], move]
  let other : Draft := [.loop [insert, move]]
  have hinsert : (Item.instr (.insert "a\n\n/*".toList)).IsDelimited := by
    rintro t ⟨⟩
    decide
  have hmove : (Item.instr (.move Int32.minValue)).IsDelimited := by
    rintro t ⟨⟩
  have hdraft : draft.EveryLeaf Item.IsDelimited := .loop (.leaf hinsert .nil) (.leaf hmove .nil)
  have hother : other.EveryLeaf Item.IsDelimited := .loop (.leaf hinsert (.leaf hmove .nil)) .nil
  have of_isOk : ∀ x : Except Draft.Fault Code, x.isOk = true → ∃ code, x = .ok code
    | .ok code, _ => ⟨code, rfl⟩
  obtain ⟨code, hcode⟩ := of_isOk
    (draft.generate (.text Target.c99.name) (.int 2) (.int 3) (.text ['\x7d'])) (by decide +kernel)
  obtain ⟨codeOfOther, hcodeOfOther⟩ := of_isOk
    (other.generate (.text Target.c99.name) (.int 2) (.int 3) (.text ['\x7d'])) (by decide +kernel)
  obtain ⟨codeOfSizes, hcodeOfSizes⟩ := of_isOk
    (draft.generate (.text Target.c99.name) (.int 1) (.int 4) (.text ['\x7d'])) (by decide +kernel)
  refine ⟨draft, other, code, codeOfOther, codeOfSizes, rfl, rfl, hdraft, hother, hcode, ?_,
    hcodeOfOther, fun same => ?_, hcodeOfSizes, fun same => ?_⟩
  · have htext : (draft.generate (.text Target.c99.name) (.int 2) (.int 3)
        (.text ['\x7d'])).toOption.map Code.text = some code.text := by
      rw [hcode]
      rfl
    exact Option.some.inj (htext.symm.trans (by decide +kernel))
  · obtain ⟨hsame, -, -⟩ := generate_text_inj (by decide) hdraft hother hcode hcodeOfOther same
    simp [draft, other] at hsame
  · obtain ⟨-, hpre, -⟩ := generate_text_inj (by decide) hdraft hdraft hcode hcodeOfSizes same
    cases hpre

end Draft

end TapeCompiler
