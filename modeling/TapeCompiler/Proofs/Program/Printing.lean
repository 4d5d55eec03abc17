import TapeCompiler.Program.Printer
import TapeCompiler.Proofs.Program.Tree

/-!
# Printing by recursion

A program can be printed by recursion on its tree: a leaf as it is spelled, and a loop as its
printed body in brackets. The printer does not do so. It prints the steps of the walk one after
another, and a bracket is closed where the walk leaves a block. A single statement is printed in a
third way: if it is a loop, its body is printed by the walk, and the brackets are put around it.

All of them print the same. A foreign statement has no printed form, and then all of them stop at
the first one that they meet, which is the first one in the order of the text.

## Main definitions

* `Draft.spell` — prints a draft by recursion
* `Draft.labels` — the labels of all foreign statements, in the order of the text
* `Program.draft` — a program as a draft

## Main results

* `Draft.text_leaf`, `Draft.text_loop` — what the walk prints for a leaf and for a loop
* `Draft.text_eq_spell` — the walk prints what the recursion prints
* `Draft.text_append` — drafts are printed one behind the other
* `Draft.text_eq_mapM` — a draft is printed statement by statement
* `Draft.text_eq_error_iff` — where printing stops
* `Draft.text_eq_recursion` — all together
-/

namespace TapeCompiler

/-- The printed form of a draft by recursion on the tree, or the label of a foreign statement. -/
def Draft.spell : Draft → Except Nat Text
  | [] => .ok []
  | .leaf a :: rest => do
    let front ← a.text
    let behind ← spell rest
    return front ++ behind
  | .loop body :: rest => do
    let inner ← spell body
    let behind ← spell rest
    return '[' :: inner ++ ']' :: behind

/-- The labels of the foreign statements at every depth, in the order of the text. -/
def Draft.labels : Draft → List Nat
  | [] => []
  | .leaf (.instr _) :: rest => labels rest
  | .leaf (.foreign label) :: rest => label :: labels rest
  | .loop body :: rest => labels body ++ labels rest

/-- The label of a statement, if it is foreign. -/
def Node.label? : Node Item → Option Nat
  | .leaf (.foreign label) => some label
  | .leaf (.instr _) => none
  | .loop _ => none

/-- A program as a draft. -/
def Program.draft : Program → Draft
  | [] => []
  | .leaf i :: rest => .leaf (.instr i) :: draft rest
  | .loop body :: rest => .loop (draft body) :: draft rest

/-! ### The steps of the walk -/

/-- Of three texts that are joined, the first one that is missing is reported, however they are
taken together. -/
theorem joined_assoc {ε : Type} (first second third : Except ε Text) :
    (do
      let front ← (do
        let before ← first
        let middle ← second
        return before ++ middle)
      let behind ← third
      return front ++ behind) = do
        let before ← first
        let rest ← (do
          let middle ← second
          let behind ← third
          return middle ++ behind)
        return before ++ rest := by
  cases first with
  | error e => rfl
  | ok before =>
    cases second with
    | error e => rfl
    | ok middle =>
      cases third with
      | error e => rfl
      | ok behind => exact congrArg Except.ok (List.append_assoc before middle behind)

/-- What is printed for some steps of the walk. -/
def Visit.printAll (visits : List (Visit Item)) : Except Nat Text := do
  let pieces ← visits.mapM (Visit.text? Item.text)
  return pieces.flatten

namespace Visit

theorem printAll_nil : printAll [] = .ok [] := rfl

theorem printAll_cons (v : Visit Item) (visits : List (Visit Item)) :
    printAll (v :: visits) = do
      let front ← v.text? Item.text
      let behind ← printAll visits
      return front ++ behind := by
  rw [printAll, printAll, List.mapM_cons]
  cases v.text? Item.text with
  | error label => rfl
  | ok front =>
    cases visits.mapM (Visit.text? Item.text) with
    | error label => rfl
    | ok pieces => rfl

theorem printAll_append (visits others : List (Visit Item)) :
    printAll (visits ++ others) = do
      let front ← printAll visits
      let behind ← printAll others
      return front ++ behind := by
  induction visits with
  | nil =>
    rw [List.nil_append, printAll_nil]
    cases printAll others <;> rfl
  | cons v visits ih =>
    rw [List.cons_append, printAll_cons, printAll_cons, ih]
    exact (joined_assoc _ _ _).symm

end Visit

namespace Draft

/-! ### The walk and the recursion -/

theorem text_eq_printAll (draft : Draft) : draft.text = Visit.printAll draft.visits := rfl

theorem text_nil : text [] = .ok [] := by
  rw [text_eq_printAll, Block.visits_nil, Visit.printAll_nil]

theorem text_leaf (a : Item) (rest : Draft) :
    text (.leaf a :: rest) = do
      let front ← a.text
      let behind ← text rest
      return front ++ behind := by
  rw [text_eq_printAll, Block.visits_leaf, Visit.printAll_cons]
  rfl

/-- A loop is printed as its body in brackets. -/
theorem text_loop (body rest : Draft) :
    text (.loop body :: rest) = do
      let inner ← text body
      let behind ← text rest
      return '[' :: inner ++ ']' :: behind := by
  rw [text_eq_printAll, Block.visits_loop, List.cons_append, Visit.printAll_cons,
    Visit.printAll_append, Visit.printAll_cons, ← text_eq_printAll, ← text_eq_printAll]
  -- The brackets never fail, so what fails first is the body or what stands behind the loop.
  cases text body with
  | error label => rfl
  | ok inner => cases text rest <;> rfl

/-- The walk prints what the recursion prints. -/
theorem text_eq_spell (draft : Draft) : draft.text = draft.spell := by
  induction draft using Block.tree_induction with
  | nil => rw [text_nil, spell]
  | leaf a rest ih => rw [text_leaf, spell, ih]
  | loop body rest ih_body ih_rest => rw [text_loop, spell, ih_body, ih_rest]

/-! ### One statement after another -/

/-- The first statement of a draft is printed in front of the others. -/
theorem text_cons (s : Node Item) (rest : Draft) :
    text (s :: rest) = do
      let front ← s.text
      let behind ← text rest
      return front ++ behind := by
  cases s with
  | leaf a => exact text_leaf a rest
  | loop body =>
    -- Here the closing bracket belongs to the first piece, there to the walk that goes on.
    rw [text_loop, Node.text]
    cases text body with
    | error label => rfl
    | ok inner =>
      cases text rest with
      | error label => rfl
      | ok behind => exact congrArg Except.ok (by simp)

/-- A draft is printed statement by statement. -/
theorem text_eq_mapM (draft : Draft) : draft.text = do
    let pieces ← draft.mapM Node.text
    return pieces.flatten := by
  induction draft with
  | nil => exact text_nil
  | cons s rest ih =>
    rw [text_cons, ih, List.mapM_cons]
    cases s.text with
    | error label => rfl
    | ok front => cases rest.mapM Node.text <;> rfl

/-- Drafts are printed one behind the other. -/
theorem text_append (draft other : Draft) :
    text (draft ++ other) = do
      let front ← text draft
      let behind ← text other
      return front ++ behind := by
  induction draft with
  | nil =>
    rw [List.nil_append, text_nil]
    cases text other <;> rfl
  | cons s rest ih =>
    rw [List.cons_append, text_cons, text_cons, ih]
    exact (joined_assoc _ _ _).symm

/-! ### Foreign statements -/

/-- Printing stops at the first foreign statement, and only there. -/
theorem text_eq_error_iff (draft : Draft) (label : Nat) :
    draft.text = .error label ↔ draft.labels.head? = some label := by
  induction draft using Block.tree_induction generalizing label with
  | nil =>
    rw [text_nil]
    simp [labels]
  | leaf a rest ih =>
    rw [text_leaf]
    cases a with
    | foreign other => simp [labels, Item.text, bind, Except.bind]
    | instr i =>
      -- An instruction is always printed, so the first failure is behind it.
      rw [labels, ← ih]
      cases text rest <;> simp [Item.text, bind, Except.bind, pure, Except.pure]
  | loop body rest ih_body ih_rest =>
    -- If the body is printed there is none in it, and the first one is behind the loop.
    rw [text_loop, labels, List.head?_append]
    cases hbody : text body with
    | error other =>
      rw [(ih_body other).mp hbody]
      simp [bind, Except.bind]
    | ok inner =>
      have hnone : (labels body).head? = none := by
        cases hhead : (labels body).head? with
        | none => rfl
        | some other => exact absurd (hbody.symm.trans ((ih_body other).mpr hhead)) (by simp)
      rw [hnone, Option.none_or, ← ih_rest]
      cases text rest <;> simp [bind, Except.bind, pure, Except.pure]

theorem labels_eq_filterMap (draft : Draft) :
    draft.labels = draft.statements.filterMap Node.label? := by
  induction draft using Block.tree_induction with
  | nil => simp [labels]
  | leaf a rest ih =>
    rw [Block.statements_leaf]
    cases a with
    | instr i => rw [labels, ih, List.filterMap_cons_none rfl]
    | foreign label =>
      have hlabel : Node.label? (.leaf (.foreign label)) = some label := rfl
      rw [labels, ih, List.filterMap_cons_some hlabel]
  | loop body rest ih_body ih_rest =>
    rw [Block.statements_loop, labels, ih_body, ih_rest, List.filterMap_cons_none rfl,
      List.filterMap_append]

/-- Printing fails if and only if there is a foreign statement at some depth. -/
theorem exists_text_eq_error_iff (draft : Draft) :
    (∃ label, draft.text = .error label) ↔ ∃ label, .leaf (.foreign label) ∈ draft.statements := by
  have hmem : ∀ label, label ∈ draft.labels ↔ .leaf (.foreign label) ∈ draft.statements := by
    intro label
    rw [labels_eq_filterMap, List.mem_filterMap]
    constructor
    · rintro ⟨s, hs, hlabel⟩
      rcases s with (_ | _) | _
      · cases hlabel
      · cases hlabel
        exact hs
      · cases hlabel
    · exact fun h => ⟨_, h, rfl⟩
  constructor
  · rintro ⟨label, h⟩
    exact ⟨label, (hmem label).mp (List.mem_of_head? ((text_eq_error_iff draft label).mp h))⟩
  · rintro ⟨label, h⟩
    obtain ⟨first, others, heq⟩ := List.exists_cons_of_ne_nil
      (List.ne_nil_of_mem ((hmem label).mpr h))
    exact ⟨first, (text_eq_error_iff draft first).mpr (by rw [heq, List.head?_cons])⟩

/-! ### Programs -/

/-- A program is printed as the draft that it is. -/
theorem text_draft (program : Program) : text program.draft = .ok program.text := by
  induction program using Block.tree_induction with
  | nil => rw [Program.draft, text_nil, Program.text, Block.visits_nil]; rfl
  | leaf i rest ih =>
    rw [Program.draft, text_leaf, ih, Program.text, Program.text, Block.visits_leaf]
    rfl
  | loop body rest ih_body ih_rest =>
    rw [Program.draft, text_loop, ih_body, ih_rest, Program.text, Program.text, Program.text,
      Block.visits_loop]
    exact congrArg Except.ok (by simp [Visit.text])

/-- The printer that walks through a draft, the printer of a single statement, and the recursion on
the tree print the same, whole drafts as well as drafts behind each other. They fail together, and
that if and only if there is a foreign statement at some depth, with the first one in the order of
the text. -/
theorem text_eq_recursion :
    (∀ draft : Draft, draft.text = draft.spell) ∧
      (∀ draft : Draft, draft.text = do
        let pieces ← draft.mapM Node.text
        return pieces.flatten) ∧
      (∀ body : Draft, Node.text (.loop body) = do
        let inner ← body.text
        return '[' :: inner ++ [']']) ∧
      (∀ draft other : Draft, text (draft ++ other) = do
        let front ← draft.text
        let behind ← other.text
        return front ++ behind) ∧
      (∀ program : Program, (do
        let pieces ← program.draft.mapM Node.text
        return pieces.flatten) = Except.ok program.text) ∧
      (∀ draft : Draft,
        (∃ label, draft.text = .error label) ↔
          ∃ label, .leaf (.foreign label) ∈ draft.statements) ∧
      (∀ (draft : Draft) (label : Nat),
        draft.text = .error label ↔ draft.labels.head? = some label) ∧
      ∀ draft : Draft, draft.labels = draft.statements.filterMap Node.label? := by
  refine ⟨text_eq_spell, text_eq_mapM, fun _ => rfl, text_append, ?_, exists_text_eq_error_iff,
    text_eq_error_iff, labels_eq_filterMap⟩
  intro program
  rw [← text_eq_mapM, text_draft]

end Draft

end TapeCompiler
