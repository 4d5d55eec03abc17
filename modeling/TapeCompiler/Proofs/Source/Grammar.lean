import Mathlib.Data.Set.Subsingleton
import TapeCompiler.Proofs.Source.Row

/-!
# The grammar of sources

A program is written as a sequence of statements with gaps around them, and a statement as a word or
as a program in brackets. This grammar says nothing of how a source is read: loops are found by the
brackets that match, not by a stack of those that are open.

The reader accepts exactly the texts that the grammar derives, and gives the program that is
derived. As it gives only one, the grammar is unambiguous.

## Main definitions

* `Derives` — a text is written for a program

## Main results

* `Derives.isRow` — a derived text is a row of the tokens of its program
* `exists_derives_of_isRow` — the tokens of a program at the front of a row are a derived text
* `derives_iff_isRow` — both together
* `parse_eq_ok_iff_derives` — the reader accepts what the grammar derives, and nothing else
-/

namespace TapeCompiler

/-- A text is written for a program. -/
inductive Derives : Text → Program → Prop
  /-- A gap, for no statement. -/
  | nil {gap : Text} (hgap : IsGap gap) : Derives gap []
  /-- A word in front, for an instruction. -/
  | leaf {gap word rest : Text} {i : Instruction} {program : Program} (hgap : IsGap gap)
      (hword : Spells word (.leaf i)) (hrest : Derives rest program) :
      Derives (gap ++ (word ++ rest)) (.leaf i :: program)
  /-- A program in brackets in front, for a loop. -/
  | loop {gap inner rest : Text} {body program : Program} (hgap : IsGap gap)
      (hbody : Derives inner body) (hrest : Derives rest program) :
      Derives (gap ++ ('[' :: inner ++ ']' :: rest)) (.loop body :: program)

theorem Derives.isRow {text : Text} {program : Program} (h : Derives text program) :
    IsRow text program.tokens := by
  induction h with
  | nil hgap =>
    rw [Block.tokens_nil]
    exact .nil hgap
  | leaf hgap hword _ ih =>
    rw [Block.tokens_leaf]
    exact .cons hgap hword ih
  | loop hgap _ _ ih_body ih_rest =>
    rw [Block.tokens_loop]
    have hclosing := IsRow.cons .nil .closing ih_rest
    have hrow := IsRow.cons hgap .opening (ih_body.append hclosing)
    exact hrow

theorem Derives.append_gap {text gap : Text} {program : Program} (h : Derives text program)
    (hgap : IsGap gap) : Derives (text ++ gap) program := by
  induction h with
  | nil hgap' => exact .nil (hgap'.append hgap)
  | leaf hgap' hword _ ih =>
    rw [List.append_assoc, List.append_assoc]
    exact .leaf hgap' hword ih
  | loop hgap' hbody _ _ ih =>
    rw [List.append_assoc, List.append_assoc, List.cons_append]
    exact .loop hgap' hbody ih

/-- The tokens of a program at the front of a row come from a text that is written for it. -/
theorem exists_derives_of_isRow (program : Program) {text : Text}
    {ts : List (Token Instruction)} (h : IsRow text (program.tokens ++ ts)) :
    ∃ front rest, text = front ++ rest ∧ Derives front program ∧ IsRow rest ts := by
  induction program using Block.tree_induction generalizing text ts with
  | nil =>
    rw [Block.tokens_nil, List.nil_append] at h
    exact ⟨[], text, rfl, .nil .nil, h⟩
  | leaf i program ih =>
    rw [Block.tokens_leaf, List.cons_append] at h
    cases h with
    | cons hgap hword hrest =>
      obtain ⟨front, rest, rfl, hfront, hrest⟩ := ih hrest
      exact ⟨_, rest, by simp only [List.append_assoc], .leaf hgap hword hfront, hrest⟩
  | loop body program ih_body ih_rest =>
    rw [Block.tokens_loop, List.cons_append, List.cons_append, List.append_assoc] at h
    cases h with
    | cons hgap hopening hrest =>
      obtain ⟨inner, behind, rfl, hinner, hbehind⟩ := ih_body hrest
      rw [List.cons_append] at hbehind
      -- The gap in front of the closing bracket still belongs to the body.
      cases hbehind with
      | cons hgap' hclosing hrest =>
        obtain ⟨front, rest, rfl, hfront, htail⟩ := ih_rest hrest
        cases hopening
        cases hclosing
        refine ⟨_, rest, ?_, .loop hgap (hinner.append_gap hgap') hfront, htail⟩
        simp only [List.append_assoc, List.cons_append, List.nil_append]

theorem derives_iff_isRow {text : Text} {program : Program} :
    Derives text program ↔ IsRow text program.tokens := by
  constructor
  · exact Derives.isRow
  · intro h
    -- Behind the tokens of the whole program there is nothing but a gap.
    rw [← List.append_nil program.tokens] at h
    obtain ⟨front, rest, rfl, hfront, hrest⟩ := exists_derives_of_isRow program h
    cases hrest with
    | nil hgap => exact hfront.append_gap hgap

/-- The reader gives a program exactly for the texts that are written for it, and reports a syntax
error exactly for those that are written for none. No text is written for two programs. -/
theorem parse_eq_ok_iff_derives (source : Text) :
    (∀ program, parse source = .ok program ↔ Derives source program) ∧
      ((∃ e, parse source = .error e) ↔ ¬ ∃ program, Derives source program) ∧
      {program | Derives source program}.Subsingleton := by
  have hok : ∀ program, parse source = .ok program ↔ Derives source program := fun program =>
    parse_eq_ok_iff.trans derives_iff_isRow.symm
  refine ⟨hok, ?_, ?_⟩
  · simp only [← hok]
    cases parse source <;> simp
  · intro program h other hother
    have hprogram := (hok program).mpr h
    rw [(hok other).mpr hother] at hprogram
    exact (Except.ok.inj hprogram).symm

end TapeCompiler
