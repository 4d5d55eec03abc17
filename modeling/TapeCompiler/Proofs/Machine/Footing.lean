import TapeCompiler.Proofs.Machine.Spacing
import TapeCompiler.Proofs.Source.Row

/-!
# Programs that stay at their cell

A program without moves reads and writes a single cell, the one at the initial place of the pointer.
This cell lies on the tape if there is at least one cell from the initial place on. The options do
not ask for that: a tape of which all cells lie before the initial place is a tape with cells. On
such a tape the pointer is set behind the last cell, and without a move in front of it the first
statement already misses the tape.

What a step can do is said once: it leaves the memory as it is, or a statement acts on it, and a
statement that is no move changes the active cell at most.

## Main definitions

* `Instruction.IsStill` — the instructions that leave the pointer where it is
* `Statement.usesCell` — the statements that read or write the active cell
* `Listing.touched?` — the place of the cell that the next step reads or writes

## Main results

* `Statement.of_act?_eq_some`, `Listing.memory_step` — what a step can do
* `Listing.getElem?_cells_step` — a step leaves all other cells as they are
* `Listing.pointer_step`, `Listing.pointer_run` — without moves, the pointer stays where it is
* `compile_stays_on_tape_iff` — when a program without moves stays on the tape
* `not_forall_compile_stays_on_tape` — a tape on which it does not
-/

namespace TapeCompiler

/-- An instruction that is neither an insert nor a move. -/
def Instruction.IsStill (i : Instruction) : Prop :=
  (∀ text, i ≠ .insert text) ∧ ∀ offset, i ≠ .move offset

/-- Whether a statement reads or writes the active cell. -/
def Statement.usesCell : Statement → Bool
  | cell _ _ => true
  | put => true
  | get => true
  | loop => true
  | _ => false

/-- The place of the cell that the next step reads or writes, if it does so. The cell need not be on
the tape. -/
def Listing.touched? (l : Listing) (s : State) : Option Int :=
  match s.control with
  | .running place =>
    match l.body[place]? with
    | some statement => if statement.usesCell then some s.memory.pointer else none
    | none => none
  | _ => none

/-! ### Single steps -/

namespace Memory

variable {m m' : Memory}

theorem of_change?_eq_some {f : UInt8 → Option UInt8} (h : m.change? f = some m') :
    0 ≤ m.pointer ∧ ∃ value, m' = { m with cells := m.cells.set m.pointer.toNat value } := by
  simp only [change?, bind, Option.bind_eq_some_iff, pure, Option.some.injEq] at h
  obtain ⟨old, hold, value, -, rfl⟩ := h
  rw [cell?] at hold
  split_ifs at hold with hpointer
  exact ⟨hpointer, value, rfl⟩

end Memory

/-- A statement moves the pointer, or it leaves it where it is and changes the active cell at
most. -/
theorem Statement.of_act?_eq_some {s : Statement} {m m' : Memory} (h : s.act? m = some m') :
    (∃ offset, s = .move offset ∧ m' = m.move offset) ∨
      m'.pointer = m.pointer ∧
        (m'.cells = m.cells ∨ s.usesCell = true ∧ 0 ≤ m.pointer ∧
          ∃ value, m'.cells = m.cells.set m.pointer.toNat value) := by
  cases s with
  | move offset =>
    cases h
    exact .inl ⟨offset, rfl, rfl⟩
  | cell op operand =>
    obtain ⟨hpointer, value, rfl⟩ := Memory.of_change?_eq_some h
    exact .inr ⟨rfl, .inr ⟨rfl, hpointer, value, rfl⟩⟩
  | put =>
    simp only [act?, Memory.put?, bind, Option.bind_eq_some_iff, pure, Option.some.injEq] at h
    obtain ⟨value, -, rfl⟩ := h
    exact .inr ⟨rfl, .inl rfl⟩
  | get =>
    simp only [act?, Memory.get?, bind, Option.bind_eq_some_iff, pure, Option.some.injEq] at h
    obtain ⟨changed, hchange, rfl⟩ := h
    obtain ⟨hpointer, value, rfl⟩ := Memory.of_change?_eq_some hchange
    exact .inr ⟨rfl, .inr ⟨rfl, hpointer, value, rfl⟩⟩
  | comment =>
    cases h
    exact .inr ⟨rfl, .inl rfl⟩
  | loop => cases h
  | close => cases h
  | finish => cases h

theorem State.memory_jump (m : Memory) (place : Option Nat) : (jump m place).memory = m := by
  cases place <;> rfl

theorem State.memory_test (m : Memory) (place : Nat) (ending : Option Nat) :
    (test m place ending).memory = m := by
  rw [test]
  cases m.cell? with
  | none => rfl
  | some value => exact memory_jump m _

namespace Listing

/-- A step leaves the memory as it is, or does to it what the statement at its place does. -/
theorem memory_step (body : List Statement) (s : State) :
    (step body s).memory = s.memory ∨
      ∃ place statement, s.control = .running place ∧ body[place]? = some statement ∧
        statement.act? s.memory = some (step body s).memory := by
  obtain ⟨control, m⟩ := s
  cases control with
  | halted => exact .inl rfl
  | stuck => exact .inl rfl
  | running place =>
    cases hstatement : body[place]? with
    | none => exact .inl (by simp only [step, hstatement])
    | some statement =>
      -- Braces and the end of the program only change the place.
      by_cases hloop : statement = .loop
      · rw [hloop] at hstatement
        rw [step_loop hstatement]
        exact .inl (State.memory_test _ _ _)
      by_cases hclose : statement = .close
      · rw [hclose] at hstatement
        left
        simp only [step, hstatement]
        split <;> rfl
      by_cases hfinish : statement = .finish
      · rw [hfinish] at hstatement
        rw [step_finish hstatement]
        exact .inl rfl
      rw [step_act hstatement hloop hclose hfinish]
      cases hact : statement.act? m with
      | none => exact .inl rfl
      | some m' => exact .inr ⟨place, statement, rfl, hstatement, hact⟩

variable {l : Listing}

theorem touched?_eq_some_iff {s : State} {cell : Int} :
    l.touched? s = some cell ↔
      ∃ place statement, s.control = .running place ∧ l.body[place]? = some statement ∧
        statement.usesCell = true ∧ s.memory.pointer = cell := by
  obtain ⟨control, m⟩ := s
  cases control with
  | running place =>
    cases hstatement : l.body[place]? with
    | none => simp [touched?, hstatement]
    | some statement => simp [touched?, hstatement]
  | halted => simp [touched?]
  | stuck => simp [touched?]

/-- A step leaves all cells as they are except the one it touches. -/
theorem getElem?_cells_step {s : State} {i : Nat} (h : l.touched? s ≠ some i) :
    (step l.body s).memory.cells[i]? = s.memory.cells[i]? := by
  rcases memory_step l.body s with hmemory | ⟨place, statement, hcontrol, hstatement, hact⟩
  · rw [hmemory]
  · rcases Statement.of_act?_eq_some hact with ⟨offset, -, hmove⟩ | ⟨-, hcells | hcells⟩
    · rw [hmove, Memory.move]
    · rw [hcells]
    · -- The active cell is the one that is touched, so it is not the one we look at.
      obtain ⟨huses, hpointer, value, hcells⟩ := hcells
      have hne : s.memory.pointer.toNat ≠ i := by
        rintro rfl
        exact h (touched?_eq_some_iff.mpr
          ⟨place, statement, hcontrol, hstatement, huses, (Int.toNat_of_nonneg hpointer).symm⟩)
      rw [hcells, List.getElem?_set_ne hne]

/-- Without moves, a step leaves the pointer where it is. -/
theorem pointer_step {body : List Statement} (still : ∀ offset, .move offset ∉ body) (s : State) :
    (step body s).memory.pointer = s.memory.pointer := by
  rcases memory_step body s with hmemory | ⟨place, statement, -, hstatement, hact⟩
  · rw [hmemory]
  · rcases Statement.of_act?_eq_some hact with ⟨offset, rfl, -⟩ | ⟨hpointer, -⟩
    · exact absurd (List.mem_of_getElem? hstatement) (still offset)
    · exact hpointer

/-- Without moves, the pointer is always where it was at the start. -/
theorem pointer_run (still : ∀ offset, .move offset ∉ l.body) (input : Stream'.Seq UInt8)
    (n : Nat) : (l.run input n).memory.pointer = l.start := by
  rw [run]
  -- Every state of a run comes from the one before it by a single step.
  induction n with
  | zero => rfl
  | succ n ih => rw [Function.iterate_succ_apply', pointer_step still, ih]

/-- Without moves, only the cell at the initial place is touched. -/
theorem eq_start_of_touched? (still : ∀ offset, .move offset ∉ l.body) {input : Stream'.Seq UInt8}
    {n : Nat} {place : Int} (h : l.touched? (l.run input n) = some place) : place = l.start := by
  obtain ⟨_, _, -, -, -, rfl⟩ := touched?_eq_some_iff.mp h
  exact pointer_run still input n

end Listing

/-! ### Programs -/

namespace Options

variable (o : Options) {program : Program} (still : program.EveryLeaf Instruction.IsStill)
include still

theorem insert_not_mem_tokens (text : Text) : Token.leaf (.insert text) ∉ program.tokens :=
  fun h => (Block.everyLeaf_iff.mp still _ h).1 text rfl

theorem move_not_mem_listing (offset : Int) : Statement.move offset ∉ (o.listing program).body := by
  intro h
  -- Only the token of a move becomes a move.
  rw [listing, List.mem_append, List.mem_map] at h
  rcases h with ⟨t, ht, hmove⟩ | h
  · cases t with
    | leaf i =>
      have hi := Block.everyLeaf_iff.mp still i ht
      cases i with
      | move offset => exact hi.2 offset rfl
      | _ => cases hmove
    | opening => cases hmove
    | closing => cases hmove
  · simp at h

/-- The first statement of a program reads or writes the active cell. -/
theorem exists_usesCell (hne : program ≠ []) :
    ∃ statement, (o.listing program).body[0]? = some statement ∧ statement.usesCell = true := by
  -- It is the statement of a leaf, or the beginning of a loop.
  cases still with
  | nil => exact absurd rfl hne
  | @leaf i rest hi _ =>
    refine ⟨.ofToken (.leaf i), by simp [listing], ?_⟩
    cases i with
    | move offset => exact absurd rfl (hi.2 offset)
    | insert text => exact absurd rfl (hi.1 text)
    | _ => rfl
  | loop _ _ => exact ⟨.loop, by simp [listing, Statement.ofToken], rfl⟩

theorem touched?_start (hne : program ≠ []) (input : Stream'.Seq UInt8) :
    (o.listing program).touched? ((o.listing program).run input 0) = some (o.pre : Int) := by
  obtain ⟨statement, hstatement, huses⟩ := o.exists_usesCell still hne
  exact Listing.touched?_eq_some_iff.mpr ⟨0, statement, rfl, hstatement, huses, rfl⟩

end Options

theorem Options.touched?_nil (o : Options) (s : State) : (o.listing []).touched? s = none := by
  rw [Option.eq_none_iff_forall_ne_some]
  intro cell h
  obtain ⟨place, statement, -, hstatement, huses, -⟩ := Listing.touched?_eq_some_iff.mp h
  have hmem := List.mem_of_getElem? hstatement
  simp only [listing, Block.tokens_nil, List.map_nil, List.nil_append, List.mem_cons,
    List.not_mem_nil, or_false] at hmem
  rcases hmem with rfl | rfl <;> cases huses

/-- Without moves, a program stays on the tape if and only if there is a cell from the initial place
on, or there is nothing to do. -/
theorem Options.forall_touched?_iff (o : Options) {program : Program}
    (still : program.EveryLeaf Instruction.IsStill) :
    (∀ (input : Stream'.Seq UInt8) (n : Nat) (place : Int),
        (o.listing program).touched? ((o.listing program).run input n) = some place →
        0 ≤ place ∧ place < (o.pre + o.post : Nat)) ↔
      0 < o.post ∨ program = [] := by
  constructor
  · intro h
    by_cases hne : program = []
    · exact .inr hne
    · -- Already the first step touches the initial place.
      left
      have hstart := (h .nil 0 _ (o.touched?_start still hne .nil)).2
      omega
  · rintro (hpost | rfl) input n place h
    · have hplace := Listing.eq_start_of_touched? (o.move_not_mem_listing still) h
      have hstart : (o.listing program).start = o.pre := rfl
      rw [hplace, hstart]
      omega
    · rw [o.touched?_nil] at h
      cases h

/-- A source that holds a program without inserts and moves is compiled, whatever white space its
code is indented with. No step of the code reads or writes beside the tape, on any input, if and
only if there is a cell from the initial place on, or the program is empty.

All this holds as long as the number of all cells can be written. Otherwise nothing is compiled. -/
theorem compile_stays_on_tape_iff {o : Options} {indent source : Text} {program : Program}
    (hindent : ∀ c ∈ indent, C.isSpace c = true) (accepted : parse source = .ok program)
    (still : program.EveryLeaf Instruction.IsStill) :
    (Tape.isWritable (o.pre + o.post) = true →
      ∃ code listing,
        (o.settings (.text indent)).compile source = .ok code ∧
        Listing.ofSpaced? code.text = some listing ∧
        ((∀ (input : Stream'.Seq UInt8) (n : Nat) (place : Int),
            listing.touched? (listing.run input n) = some place →
            0 ≤ place ∧ place < (o.pre + o.post : Nat)) ↔
          0 < o.post ∨ program = [])) ∧
    (Tape.isWritable (o.pre + o.post) = false →
      (o.settings (.text indent)).compile source = .error (.tape .unwritable)) := by
  constructor
  · intro writable
    exact ⟨o.code indent program, o.listing program,
      Options.compile_of_isWritable accepted writable indent,
      o.ofSpaced?_code hindent (Options.insert_not_mem_tokens still),
      o.forall_touched?_iff still⟩
  · intro unwritable
    exact Options.compile_of_not_isWritable accepted unwritable indent

/-- A loop on a tape of five cells. Its code is indented with tabs. -/
theorem compile_stays_on_tape_iff_loop :
    parse "+[,.]".toList =
        .ok [.leaf (.cell .add 1), .loop [.leaf .input, .leaf .output]] ∧
      ∃ code listing,
        (({ pre := 2, post := 3 } : Options).settings (.text ['\t'])).compile "+[,.]".toList =
          .ok code ∧
        Listing.ofSpaced? code.text = some listing ∧
        ∀ (input : Stream'.Seq UInt8) (n : Nat) (place : Int),
          listing.touched? (listing.run input n) = some place → 0 ≤ place ∧ place < 5 := by
  have accepted : parse "+[,.]".toList =
      .ok [.leaf (.cell .add 1), .loop [.leaf .input, .leaf .output]] := by
    with_unfolding_all rfl
  have still : Block.EveryLeaf Instruction.IsStill
      [.leaf (.cell .add 1), .loop [.leaf .input, .leaf .output]] :=
    .leaf (by simp [Instruction.IsStill]) (.loop (.leaf (by simp [Instruction.IsStill])
      (.leaf (by simp [Instruction.IsStill]) .nil)) .nil)
  have hindent : ∀ c ∈ ['\t'], C.isSpace c = true := by simp [C.isSpace]
  have hstays := @compile_stays_on_tape_iff { pre := 2, post := 3 } _ _ _ hindent accepted still
  obtain ⟨code, listing, hcompile, hlisting, hiff⟩ := hstays.1 (by decide +kernel)
  exact ⟨accepted, code, listing, hcompile, hlisting, hiff.mpr (.inl (by decide))⟩

/-- A tape whose only cell lies before the initial place is accepted. On it, the first statement
writes behind the last cell. -/
theorem not_forall_compile_stays_on_tape :
    ¬ ∀ (o : Options) (indent source : Text) (program : Program) (code : Code) (listing : Listing),
      parse source = .ok program → program.EveryLeaf Instruction.IsStill →
      (o.settings (.text indent)).compile source = .ok code →
      Listing.ofSpaced? code.text = some listing →
      ∀ (input : Stream'.Seq UInt8) (n : Nat) (place : Int),
        listing.touched? (listing.run input n) = some place →
        0 ≤ place ∧ place < (o.pre + o.post : Nat) := by
  intro h
  let o : Options := { pre := 1, post := 0 }
  have accepted : parse ['+'] = .ok [.leaf (.cell .add 1)] := by
    rw [parse_eq_ok_iff]
    simpa using IsRow.word .increment
  have still : Block.EveryLeaf Instruction.IsStill [.leaf (.cell .add 1)] :=
    .leaf (by simp [Instruction.IsStill]) .nil
  have writable : Tape.isWritable (o.pre + o.post) = true := by decide +kernel
  have hcompile := Options.compile_of_isWritable accepted writable Indentation.standard
  have hindent : ∀ c ∈ Indentation.standard, C.isSpace c = true := by
    simp [C.isSpace, Indentation.standard]
  have hlisting := o.ofSpaced?_code hindent (Options.insert_not_mem_tokens still)
  have htouched := o.touched?_start still (by simp) .nil
  have hbeside := (h o _ _ _ _ _ accepted still hcompile hlisting .nil 0 _ htouched).2
  exact absurd hbeside (by decide)

end TapeCompiler
