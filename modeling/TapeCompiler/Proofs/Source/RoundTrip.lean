import Mathlib.Tactic.TFAE
import TapeCompiler.Program.Printer
import TapeCompiler.Proofs.Source.Row

/-!
# Reading printed programs

The printed form of a program is the row of the printed forms of its tokens, without gaps. Those
instructions that have a spelling in the source are printed as that spelling, so a program of such
instructions is read back from its printed form. No other program is read from any source.

## Main definitions

* `Instruction.IsBare` — the instructions that have a spelling in the source
* `Token.text` — the printed form of a token

## Main results

* `spells_leaf_iff` — the spelling of an instruction is its printed form
* `Program.text_eq_flatMap` — a program is printed token by token
* `isRow_text` — the printed form of a program of bare instructions is a row
* `parse_text_tfae` — the programs that are read back, that are read at all, and the bare ones
-/

namespace TapeCompiler

/-- An instruction with a spelling in the source: a single step, a change by one, input, output, or
an insert that neither holds a double colon nor ends in a colon. -/
def Instruction.IsBare : Instruction → Prop
  | move offset => offset = 1 ∨ offset = -1
  | cell op operand => op = .add ∧ (operand = 1 ∨ operand = -1)
  | output => True
  | input => True
  | insert t => ¬ [':', ':'] <:+: t ∧ ¬ [':'] <:+ t

/-- The printed form of a token. -/
def Token.text : Token Instruction → Text
  | .leaf i => i.text
  | .opening => ['[']
  | .closing => [']']

/-! ### Spellings -/

theorem Spells.eq_text {word : Text} {t : Token Instruction} (h : Spells word t) :
    word = t.text := by
  cases h <;> rfl

theorem Spells.isBare {word : Text} {i : Instruction} (h : Spells word (.leaf i)) : i.IsBare := by
  cases h with
  | forward => exact .inl rfl
  | backward => exact .inr rfl
  | increment => exact ⟨rfl, .inl rfl⟩
  | decrement => exact ⟨rfl, .inr rfl⟩
  | input => trivial
  | output => trivial
  | insert ht => exact enclosable_iff.mp ht

/-- An instruction with a spelling is printed as that spelling. -/
theorem Instruction.IsBare.spells {i : Instruction} (h : i.IsBare) : Spells i.text (.leaf i) := by
  cases i with
  | move offset =>
    rcases h with rfl | rfl
    · exact .forward
    · exact .backward
  | cell op operand =>
    obtain ⟨rfl, rfl | rfl⟩ := h
    · exact .increment
    · exact .decrement
  | output => exact .output
  | input => exact .input
  | insert t => exact .insert (enclosable_iff.mpr h)

theorem spells_leaf_iff {word : Text} {i : Instruction} :
    Spells word (.leaf i) ↔ word = i.text ∧ i.IsBare := by
  constructor
  · intro h
    exact ⟨h.eq_text, h.isBare⟩
  · rintro ⟨rfl, h⟩
    exact h.spells

/-! ### Printed programs -/

theorem Visit.text_eq (v : Visit Instruction) : v.text Instruction.text = v.token.text := by
  cases v <;> rfl

/-- A program is printed token by token. -/
theorem Program.text_eq_flatMap (program : Program) :
    Program.text program = program.tokens.flatMap Token.text := by
  rw [Program.text, Block.tokens, List.flatMap_def, List.map_map]
  congr 2
  funext v
  exact v.text_eq

theorem IsRow.text {ts : List (Token Instruction)} (h : ∀ t ∈ ts, Spells t.text t) :
    IsRow (ts.flatMap Token.text) ts := by
  induction ts with
  | nil => exact .nil .nil
  | cons t ts ih =>
    rw [List.flatMap_cons]
    exact .cons .nil (h t (by simp)) (ih fun u hu => h u (by simp [hu]))

/-- A program of bare instructions is printed as a row of its tokens. -/
theorem isRow_text {program : Program} (h : program.EveryLeaf Instruction.IsBare) :
    IsRow (Program.text program) program.tokens := by
  rw [Program.text_eq_flatMap]
  apply IsRow.text
  intro t ht
  cases t with
  | leaf i => exact (Block.everyLeaf_iff.mp h i ht).spells
  | opening => exact .opening
  | closing => exact .closing

/-- Every program that is read from a source consists of bare instructions. -/
theorem everyLeaf_isBare_of_parse {source : Text} {program : Program}
    (h : parse source = .ok program) : program.EveryLeaf Instruction.IsBare := by
  -- Every leaf is a token of the row, and as such it is spelled by some word.
  rw [Block.everyLeaf_iff]
  intro i hi
  obtain ⟨word, hword⟩ := (parse_eq_ok_iff.mp h).exists_spells hi
  exact hword.isBare

/-- A program is read from some source if and only if it is read from its printed form, and if and
only if all of its instructions, in loops of every depth, are bare. -/
theorem parse_text_tfae (program : Program) :
    List.TFAE [∃ source, parse source = .ok program,
      parse (Program.text program) = .ok program,
      program.EveryLeaf Instruction.IsBare] := by
  tfae_have 1 → 3 := fun ⟨_, h⟩ => everyLeaf_isBare_of_parse h
  tfae_have 3 → 2 := fun h => parse_eq_ok_iff.mpr (isRow_text h)
  tfae_have 2 → 1 := fun h => ⟨_, h⟩
  tfae_finish

end TapeCompiler
