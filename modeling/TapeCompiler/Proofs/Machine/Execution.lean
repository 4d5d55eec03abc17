import TapeCompiler.Proofs.Code.Legible
import TapeCompiler.Proofs.Machine.Arithmetic
import TapeCompiler.Proofs.Machine.Footing
import TapeCompiler.Proofs.Program.Printing

/-!
# Running code with the arithmetic of C

The machine that runs a listing takes the exact result of every operation on a cell. Here its
assignments are done at the types of C instead, and at one that is not defined the machine is stuck.

A program can be built with any operands of 32 bits, and its code holds them as they are. An
addition or a multiplication can then be an overflow. This is told by the operator, the operand and
the cell alone, and every other assignment stores the exact result modulo 256. Divisions never
overflow, and neither do operations with the least operand. If all operands are safe, the machine
does what the one with exact results does.

## Main definitions

* `Listing.typedStep`, `Listing.execute` — a step, and the state after some of them
* `Instruction.IsDefined` — the instructions of which the result is defined exactly
* `Instruction.IsSafe` — the instructions that never overflow

## Main results

* `Listing.typedStep_of_overflows`, `Listing.typedStep_of_not_overflows` — what an assignment does
* `Listing.execute_eq_run` — without overflows the results are exact
* `Draft.generate_draft` — the code of a program that is given as a draft
* `Program.overflows_of_executed` — all together
* `Program.not_forall_executed_fits` — an addition that overflows
-/

namespace TapeCompiler

/-- An instruction that is no insert and does not divide by zero. -/
def Instruction.IsDefined (i : Instruction) : Prop :=
  (∀ text, i ≠ .insert text) ∧ i ≠ .cell .div 0 ∧ i ≠ .cell .mod 0

/-- An instruction that does not overflow, whatever the cell holds. -/
def Instruction.IsSafe (i : Instruction) : Prop :=
  ∀ op operand, i = .cell op operand → C.IsSafe op operand.toInt

/-! ### The machine -/

theorem Memory.change?_of_cell? {m : Memory} {value : UInt8} (h : m.cell? = some value)
    (f : UInt8 → Option UInt8) :
    m.change? f = (f value).map fun new =>
      { m with cells := m.cells.set m.pointer.toNat new } := by
  simp only [change?, h, bind, Option.bind_some]
  cases f value <;> rfl

namespace Listing

/-- A step of the machine that does its assignments at the types of C. -/
def typedStep (body : List Statement) (s : State) : State :=
  match s.control with
  | .running place =>
    match body[place]? with
    | some (.cell op operand) =>
      .proceed place s.memory
        (s.memory.change? fun value => (C.assign op value operand).toOption)
    | _ => step body s
  | _ => s

/-- The state after `n` steps of a listing with the arithmetic of C. -/
def execute (l : Listing) (input : Stream'.Seq UInt8) (n : Nat) : State :=
  (typedStep l.body)^[n] (.start (.blank l.size l.start input))

variable {body : List Statement} {place : Nat} {op : Operator} {operand : Int}

theorem typedStep_cell (h : body[place]? = some (.cell op operand)) (m : Memory) :
    typedStep body ⟨.running place, m⟩ =
      .proceed place m (m.change? fun value => (C.assign op value operand).toOption) := by
  simp only [typedStep, h]

theorem typedStep_other {s : Statement} (h : body[place]? = some s)
    (hs : ∀ op operand, s ≠ .cell op operand) (m : Memory) :
    typedStep body ⟨.running place, m⟩ = step body ⟨.running place, m⟩ := by
  simp only [typedStep, h]
  -- The first branch is the one for assignments, and all other statements share the second one.
  split
  · next op operand hcell => exact absurd (Option.some.inj hcell) (hs op operand)
  · rfl

/-- At an assignment that overflows the machine is stuck. -/
theorem typedStep_of_overflows (h : body[place]? = some (.cell op operand))
    (hoperand : -2147483648 ≤ operand ∧ operand ≤ 2147483647) {m : Memory} {value : UInt8}
    (hvalue : m.cell? = some value) (hover : C.Overflows op value operand) :
    typedStep body ⟨.running place, m⟩ = ⟨.stuck, m⟩ := by
  rw [typedStep_cell h, Memory.change?_of_cell? hvalue, C.assign_eq_error hoperand hover]
  rfl

/-- Any other assignment stores the exact result modulo 256. -/
theorem typedStep_of_not_overflows (h : body[place]? = some (.cell op operand))
    (hoperand : -2147483648 ≤ operand ∧ operand ≤ 2147483647) {m : Memory} {value : UInt8}
    (hvalue : m.cell? = some value) {exact : Int}
    (hexact : Statement.result? op value.toNat operand = some exact)
    (hfits : ¬ C.Overflows op value operand) :
    typedStep body ⟨.running place, m⟩ =
      ⟨.running (place + 1),
        { m with cells := m.cells.set m.pointer.toNat (UInt8.ofInt exact) }⟩ := by
  rw [typedStep_cell h, Memory.change?_of_cell? hvalue, C.assign_eq_ok hoperand hexact hfits]
  rfl

/-- Without overflows a step takes the exact result. -/
theorem typedStep_eq_step (hbody : ∀ op operand, .cell op operand ∈ body → ∀ value : UInt8,
      (C.assign op value operand).toOption =
        (Statement.result? op value.toNat operand).map UInt8.ofInt) (s : State) :
    typedStep body s = step body s := by
  obtain ⟨control, m⟩ := s
  cases control with
  | halted => rfl
  | stuck => rfl
  | running place =>
    cases hstatement : body[place]? with
    | none => simp only [typedStep, hstatement]
    | some s =>
      -- The two machines differ in assignments only, and these do the same by assumption.
      by_cases hcell : ∃ op operand, s = .cell op operand
      · obtain ⟨op, operand, rfl⟩ := hcell
        have hresults := hbody op operand (List.mem_of_getElem? hstatement)
        rw [typedStep_cell hstatement,
          step_act hstatement Statement.noConfusion Statement.noConfusion Statement.noConfusion]
        simp only [hresults, Statement.act?]
      · apply typedStep_other hstatement
        rintro op operand rfl
        exact hcell ⟨op, operand, rfl⟩

/-- Without overflows the results of a run are exact. -/
theorem execute_eq_run {l : Listing}
    (hbody : ∀ op operand, .cell op operand ∈ l.body → ∀ value : UInt8,
      (C.assign op value operand).toOption =
        (Statement.result? op value.toNat operand).map UInt8.ofInt)
    (input : Stream'.Seq UInt8) (n : Nat) : l.execute input n = l.run input n := by
  have hstep : typedStep l.body = step l.body := funext (typedStep_eq_step hbody)
  rw [execute, run, hstep]

end Listing

/-! ### The code of a program -/

namespace C

theorem draftLines_draft (indent : Text) (depth : Int) (program : Program) :
    draftLines indent depth program.draft.tokens = lines indent depth program.tokens := by
  induction program using Block.tree_induction generalizing depth with
  | nil =>
    rw [Program.draft, draftLines_nil, Block.tokens_nil]
    rfl
  | leaf i rest ih =>
    rw [Program.draft, draftLines_leaf, ih, Block.tokens_leaf]
    rfl
  | loop body rest ih_body ih_rest =>
    rw [Program.draft, draftLines_loop, ih_body, ih_rest]
    exact (Token.lines_loop (fun depth => Lines.indented (indent.times depth)) statement loopOpening
      loopEnding depth body rest).symm

end C

theorem Program.everyLeaf_draft (program : Program) :
    program.draft.EveryLeaf fun a => ∃ i, a = .instr i := by
  induction program using Block.tree_induction with
  | nil =>
    rw [Program.draft]
    exact .nil
  | leaf i rest ih =>
    rw [Program.draft]
    exact .leaf ⟨i, rfl⟩ ih
  | loop body rest ih_body ih_rest =>
    rw [Program.draft]
    exact .loop ih_body ih_rest

/-- A program that is given as a draft has code for all sizes of which the sum can be written. -/
theorem Draft.generate_draft (program : Program) (pre post : Nat) (indent : Text) :
    program.draft.generate (.text Target.c99.name) (.int pre) (.int post) (.text indent) =
      if Tape.isWritable (pre + post) then
        .ok ⟨C.opening indent pre post ++ C.lines indent 1 program.tokens ++ C.ending indent,
          C.extension⟩
      else .error (.tape .unwritable) := by
  -- All leaves are instructions, so the backend for drafts refuses none of them.
  have hleaf : ∀ a, .leaf a ∈ program.draft.visits →
      ((C.backend (.ofText indent)).items : Backend Item (Item.Fault Indentation.Fault)).leaf a =
        .ok (C.item a) := by
    intro a ha
    obtain ⟨i, rfl⟩ := Block.everyLeaf_iff.mp program.everyLeaf_draft a
      (Block.leaf_mem_tokens.mpr ha)
    rfl
  have hmargin : ∀ depth, ((C.backend (.ofText indent)).items :
      Backend Item (Item.Fault Indentation.Fault)).indentation.margin depth =
        .ok (.ok (indent.times depth)) := fun _ => rfl
  have hcode : ((C.backend (.ofText indent)).items :
      Backend Item (Item.Fault Indentation.Fault)).code program.draft pre post =
        .ok ⟨C.opening indent pre post ++ C.lines indent 1 program.tokens ++ C.ending indent,
          C.extension⟩ := by
    have hemit := Backend.emitVisits_eq hmargin rfl rfl hleaf
      ⟨(C.opening indent pre post).toArray, 1⟩
    rw [Backend.code_eq rfl hemit rfl, ← C.draftLines_draft]
    simp [Block.tokens, C.draftLines, Backend.items, C.backend, Indentation.ofText]
  have htarget : Target.ofValue? (.text Target.c99.name) = some .c99 := rfl
  have hwrites : ((C.backend (.ofText indent)).items :
      Backend Item (Item.Fault Indentation.Fault)).writesCells = true := rfl
  have hvalue : Indentation.ofValue (.text indent) = .ofText indent := rfl
  have hlevel : ((C.backend (.ofText indent)).items :
      Backend Item (Item.Fault Indentation.Fault)).unwritable pre = .tape .unwritable :=
    Backend.unwritable_of_level rfl pre
  simp only [generate, htarget, Target.backend, hvalue, Backend.generate_of_sizes hwrites, hcode,
    hlevel]
  cases Tape.isWritable (pre + post) with
  | true => rfl
  | false => rfl

/-! ### Programs -/

/-- An assignment in the listing of a program is an instruction of the program. -/
theorem Statement.exists_of_cell_mem {ts : List (Token Instruction)} {op : Operator} {operand : Int}
    (h : .cell op operand ∈ ts.map ofToken ++ [.finish, .close]) :
    ∃ n : Int32, .leaf (.cell op n) ∈ ts ∧ operand = n.toInt := by
  rw [List.mem_append, List.mem_map] at h
  rcases h with ⟨t, ht, hcell⟩ | h
  · cases t with
    | leaf i =>
      cases i with
      | cell op' n =>
        cases hcell
        exact ⟨n, ht, rfl⟩
      | move offset =>
        rw [ofToken] at hcell
        split_ifs at hcell
      | output => cases hcell
      | input => cases hcell
      | insert text => cases hcell
    | opening => cases hcell
    | closing => cases hcell
  · simp at h

theorem toInt_bounds (n : Int32) : -2147483648 ≤ n.toInt ∧ n.toInt ≤ 2147483647 :=
  ⟨n.minValue_le_toInt, n.toInt_le⟩

theorem toNat_ofInt (x : Int) : ((UInt8.ofInt x).toNat : Int) = x % 256 := by
  simp only [UInt8.ofInt, UInt8.toNat_ofNat']
  omega

/-- An operation that does not divide by zero has an exact result. -/
theorem Instruction.IsDefined.exists_result {op : Operator} {n : Int32}
    (h : (Instruction.cell op n).IsDefined) (value : UInt8) :
    ∃ exact, Statement.result? op value.toNat n.toInt = some exact := by
  -- The listing holds the operand as an integer, which is zero only if the word is.
  have hzero : n.toInt = 0 → n = 0 := fun hn => Int32.toInt_inj.mp hn
  cases op with
  | add => exact ⟨_, rfl⟩
  | mul => exact ⟨_, rfl⟩
  | div =>
    refine ⟨_, if_neg fun hn => h.2.1 ?_⟩
    rw [hzero hn]
  | mod =>
    refine ⟨_, if_neg fun hn => h.2.2 ?_⟩
    rw [hzero hn]

section

variable {l : Listing} {program : Program}
  (hbody : l.body = program.tokens.map Statement.ofToken ++ [.finish, .close])
include hbody

/-- What an assignment of a program does when it is executed. -/
theorem Listing.execute_assignment (hprogram : program.EveryLeaf Instruction.IsDefined)
    {input : Stream'.Seq UInt8} {n place : Nat} {m : Memory} {op : Operator} {operand : Int}
    {value : UInt8} (hstate : l.execute input n = ⟨.running place, m⟩)
    (hplace : l.body[place]? = some (.cell op operand)) (hvalue : m.cell? = some value) :
    (C.assign op value operand = .error .overflow ↔ C.Overflows op value operand) ∧
      (C.Overflows op value operand → l.execute input (n + 1) = ⟨.stuck, m⟩) ∧
      (¬ C.Overflows op value operand → ∃ (exact : Int) (byte : UInt8),
        Statement.result? op value.toNat operand = some exact ∧ byte.toNat = exact % 256 ∧
          l.execute input (n + 1) =
            ⟨.running (place + 1), { m with cells := m.cells.set m.pointer.toNat byte }⟩) := by
  have hmem : .cell op operand ∈ program.tokens.map Statement.ofToken ++ [.finish, .close] :=
    hbody ▸ List.mem_of_getElem? hplace
  -- The operand is one of the program, so it has 32 bits and there is an exact result.
  obtain ⟨k, hk, rfl⟩ := Statement.exists_of_cell_mem hmem
  obtain ⟨exact, hexact⟩ := (Block.everyLeaf_iff.mp hprogram _ hk).exists_result value
  have hnext : l.execute input (n + 1) = typedStep l.body ⟨.running place, m⟩ := by
    rw [← hstate, execute, Function.iterate_succ_apply', ← execute]
  refine ⟨C.assign_eq_error_iff (toInt_bounds k) hexact, fun hover => ?_, fun hfits => ?_⟩
  · rw [hnext, typedStep_of_overflows hplace (toInt_bounds k) hvalue hover]
  · refine ⟨exact, UInt8.ofInt exact, hexact, toNat_ofInt exact, ?_⟩
    rw [hnext, typedStep_of_not_overflows hplace (toInt_bounds k) hvalue hexact hfits]

/-- Safe instructions never overflow. -/
theorem Listing.not_overflows (hsafe : program.EveryLeaf Instruction.IsSafe) {op : Operator}
    {operand : Int} (hmem : .cell op operand ∈ l.body) (value : UInt8) :
    ¬ C.Overflows op value operand := by
  rw [hbody] at hmem
  obtain ⟨k, hk, rfl⟩ := Statement.exists_of_cell_mem hmem
  exact C.forall_not_overflows_iff.mpr (Block.everyLeaf_iff.mp hsafe _ hk op k rfl) value

/-- A program of safe instructions is executed with exact results. -/
theorem Listing.execute_eq_run_of_safe (hprogram : program.EveryLeaf Instruction.IsDefined)
    (hsafe : program.EveryLeaf Instruction.IsSafe) (input : Stream'.Seq UInt8) (n : Nat) :
    l.execute input n = l.run input n := by
  apply execute_eq_run
  intro op operand hmem value
  have hfits := not_overflows hbody hsafe hmem value
  rw [hbody] at hmem
  obtain ⟨k, hk, rfl⟩ := Statement.exists_of_cell_mem hmem
  obtain ⟨exact, hexact⟩ := (Block.everyLeaf_iff.mp hprogram _ hk).exists_result value
  rw [C.assign_eq_ok (toInt_bounds k) hexact hfits, hexact]
  rfl

end

/-- A program without inserts and without divisions by zero has code, on a tape of which the number
of cells can be written. Whenever its code comes to an assignment on the tape, on any input, this
overflows if and only if the operator, the cell and the operand say so. Otherwise the exact result
modulo 256 is stored. If all operands are safe, nothing overflows, and the code does what it does
with exact results. -/
theorem Program.overflows_of_executed {pre post : Nat} {indent : Text} {program : Program}
    (hindent : ∀ c ∈ indent, C.isSpace c = true)
    (hprogram : program.EveryLeaf Instruction.IsDefined) :
    (Tape.isWritable (pre + post) = true →
      ∃ code listing,
        program.draft.generate (.text Target.c99.name) (.int pre) (.int post) (.text indent) =
          .ok code ∧
        Listing.ofSpaced? code.text = some listing ∧
        (∀ (input : Stream'.Seq UInt8) (n place : Nat) (m : Memory) (op : Operator) (operand : Int)
            (value : UInt8),
          listing.execute input n = ⟨.running place, m⟩ →
          listing.body[place]? = some (.cell op operand) → m.cell? = some value →
          (C.assign op value operand = .error .overflow ↔ C.Overflows op value operand) ∧
          (C.Overflows op value operand → listing.execute input (n + 1) = ⟨.stuck, m⟩) ∧
          (¬ C.Overflows op value operand → ∃ (exact : Int) (byte : UInt8),
            Statement.result? op value.toNat operand = some exact ∧ byte.toNat = exact % 256 ∧
            listing.execute input (n + 1) =
              ⟨.running (place + 1), { m with cells := m.cells.set m.pointer.toNat byte }⟩)) ∧
        (program.EveryLeaf Instruction.IsSafe →
          (∀ op operand value, .cell op operand ∈ listing.body →
            ¬ C.Overflows op value operand) ∧
          ∀ input n, listing.execute input n = listing.run input n)) ∧
    (Tape.isWritable (pre + post) = false →
      program.draft.generate (.text Target.c99.name) (.int pre) (.int post) (.text indent) =
        .error (.tape .unwritable)) := by
  have hinsert : ∀ text, .leaf (.insert text) ∉ program.tokens :=
    fun text htext => (Block.everyLeaf_iff.mp hprogram _ htext).1 text rfl
  rw [Draft.generate_draft]
  refine ⟨fun hwritable => ?_, fun hunwritable => ?_⟩
  · refine ⟨_, _, if_pos hwritable,
      Listing.ofSpaced?_lines hindent pre post hinsert C.extension, ?_, fun hsafe => ⟨?_, ?_⟩⟩
    · intro input n place m op operand value hstate hplace hvalue
      exact Listing.execute_assignment rfl hprogram hstate hplace hvalue
    · intro op operand value hmem
      exact Listing.not_overflows rfl hsafe hmem value
    · exact Listing.execute_eq_run_of_safe rfl hprogram hsafe
  · simp [hunwritable]

/-- A product with the least operand is done at 64 bits, and so it never overflows. -/
theorem Program.overflows_of_executed_least :
    ∃ code listing,
      (Program.draft [.leaf (.cell .add (-1)), .loop [.leaf (.cell .mul Int32.minValue)]]).generate
          (.text Target.c99.name) (.int 2) (.int 3) (.text ['\t']) = .ok code ∧
        Listing.ofSpaced? code.text = some listing ∧
        (∀ op operand value, .cell op operand ∈ listing.body → ¬ C.Overflows op value operand) ∧
        ∀ input n, listing.execute input n = listing.run input n := by
  have hindent : ∀ c ∈ ['\t'], C.isSpace c = true := by simp [C.isSpace]
  have hprogram : Block.EveryLeaf Instruction.IsDefined
      [.leaf (.cell .add (-1)), .loop [.leaf (.cell .mul Int32.minValue)]] :=
    .leaf (by simp [Instruction.IsDefined])
      (.loop (.leaf (by simp [Instruction.IsDefined]) .nil) .nil)
  have hsafe : Block.EveryLeaf Instruction.IsSafe
      [.leaf (.cell .add (-1)), .loop [.leaf (.cell .mul Int32.minValue)]] := by
    refine .leaf ?_ (.loop (.leaf ?_ .nil) .nil)
    · rintro op operand ⟨⟩
      decide
    · rintro op operand ⟨⟩
      decide
  obtain ⟨code, listing, hcode, hlisting, -, hexact⟩ :=
    (@Program.overflows_of_executed 2 3 _ _ hindent hprogram).1 (by decide +kernel)
  exact ⟨code, listing, hcode, hlisting, hexact hsafe⟩

/-- If the cell holds one, an addition of the greatest operand overflows. -/
theorem Program.not_forall_executed_fits :
    ¬ ∀ (pre post : Nat) (program : Program) (code : Code) (listing : Listing),
      program.EveryLeaf Instruction.IsDefined →
      program.draft.generate (.text Target.c99.name) (.int pre) (.int post)
        (.text Indentation.standard) = .ok code →
      Listing.ofSpaced? code.text = some listing →
      ∀ (input : Stream'.Seq UInt8) (n place : Nat) (m : Memory) (op : Operator) (operand : Int)
        (value : UInt8),
        (∀ k ≤ n, ∀ cell, listing.touched? (listing.execute input k) = some cell →
          0 ≤ cell ∧ cell < (pre + post : Nat)) →
        listing.execute input n = ⟨.running place, m⟩ →
        listing.body[place]? = some (.cell op operand) → m.cell? = some value →
        C.assign op value operand ≠ .error .overflow := by
  intro h
  let program : Program := [.leaf (.cell .add 1), .leaf (.cell .add 2147483647)]
  let listing : Listing := ⟨1, 0, [.cell .add 1, .cell .add 2147483647, .finish, .close]⟩
  have hprogram : program.EveryLeaf Instruction.IsDefined :=
    .leaf (by simp [Instruction.IsDefined]) (.leaf (by simp [Instruction.IsDefined]) .nil)
  have hwritable : Tape.isWritable (0 + 1) = true := by decide +kernel
  have hcode := (Draft.generate_draft program 0 1 Indentation.standard).trans (if_pos hwritable)
  have hindent : ∀ c ∈ Indentation.standard, C.isSpace c = true := by
    simp [C.isSpace, Indentation.standard]
  have htokens : program.tokens = [.leaf (.cell .add 1), .leaf (.cell .add 2147483647)] := by
    simp [program]
  have hinsert : ∀ text, .leaf (.insert text) ∉ program.tokens := by simp [htokens]
  have hlisting := Listing.ofSpaced?_lines hindent 0 1 hinsert C.extension
  have hbody : (⟨0 + 1, 0, program.tokens.map Statement.ofToken ++ [.finish, .close]⟩ : Listing) =
      listing := by
    rw [htokens]
    rfl
  rw [hbody] at hlisting
  -- The first assignment stores one, and the second one overflows.
  have hstart : listing.execute .nil 0 = ⟨.running 0, ⟨[0], 0, .nil, []⟩⟩ := rfl
  have hsecond : listing.execute .nil 1 = ⟨.running 1, ⟨[1], 0, .nil, []⟩⟩ := rfl
  have hstays : ∀ k ≤ 1, ∀ cell, listing.touched? (listing.execute .nil k) = some cell →
      0 ≤ cell ∧ cell < (0 + 1 : Nat) := by
    intro k hk cell hcell
    have hzero : cell = 0 := by
      rcases Nat.le_one_iff_eq_zero_or_eq_one.mp hk with rfl | rfl
      · rw [hstart] at hcell
        cases hcell
        rfl
      · rw [hsecond] at hcell
        cases hcell
        rfl
    rw [hzero]
    decide
  exact h 0 1 program _ listing hprogram hcode hlisting .nil 1 1 _ .add 2147483647 1 hstays
    hsecond rfl rfl (by decide)

end TapeCompiler
