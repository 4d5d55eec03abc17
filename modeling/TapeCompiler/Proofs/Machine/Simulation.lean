import TapeCompiler.Proofs.Machine.CodeListing
import TapeCompiler.Proofs.Machine.Jump

/-!
# Compiling preserves meaning

The machine that runs a source and the machine that runs its code go in lock step: a command is a
line. The tree of the program stands between the two. Its tokens are the commands on the one side
and the lines on the other, and therefore a jump from a bracket and a jump from a brace lead to the
same place. Behind the last command, the source is at its end, and the code comes to its `return`.

Along a run no machine leaves its code, and it gets stuck only where the pointer is not on the tape.

## Main definitions

* `Token.IsCommand` — the tokens that a single character stands for
* `State.Within` — what holds along every run

## Main results

* `step_eq` — both machines do the same step
* `iterate_step_eq` — they do the same steps
* `compile_simulates` — the code of a source does what the source does
-/

namespace TapeCompiler

/-! ### Commands -/

namespace Token

/-- The tokens that a single character of a source stands for. -/
inductive IsCommand : Token Instruction → Prop
  | forward : IsCommand (.leaf (.move 1))
  | backward : IsCommand (.leaf (.move (-1)))
  | increment : IsCommand (.leaf (.cell .add 1))
  | decrement : IsCommand (.leaf (.cell .add (-1)))
  | input : IsCommand (.leaf .input)
  | output : IsCommand (.leaf .output)
  | opening : IsCommand .opening
  | closing : IsCommand .closing

/-- The character that stands for a token. -/
def symbol (t : Token Instruction) : Char :=
  t.text.headD ' '

namespace IsCommand

variable {t : Token Instruction}

theorem of_spells {word : Text} (h : Spells word t) (ht : ∀ text, t ≠ .leaf (.insert text)) :
    t.IsCommand := by
  cases h with
  | forward => exact .forward
  | backward => exact .backward
  | increment => exact .increment
  | decrement => exact .decrement
  | input => exact .input
  | output => exact .output
  | insert => exact absurd rfl (ht _)
  | opening => exact .opening
  | closing => exact .closing

theorem ne_insert (h : t.IsCommand) (text : Text) : t ≠ .leaf (.insert text) := by
  cases h <;> simp

theorem text_eq (h : t.IsCommand) : t.text = [t.symbol] := by
  cases h <;> rfl

theorem brackets_symbol (h : t.IsCommand) :
    Jump.brackets.opens t.symbol = Token.brackets.opens t ∧
      Jump.brackets.closes t.symbol = Token.brackets.closes t := by
  cases h <;> exact ⟨rfl, rfl⟩

theorem brackets_ofToken (h : t.IsCommand) :
    Listing.brackets.opens (.ofToken t) = Token.brackets.opens t ∧
      Listing.brackets.closes (.ofToken t) = Token.brackets.closes t := by
  cases h <;> exact ⟨rfl, rfl⟩

end IsCommand

end Token

/-! ### Bytes -/

theorem ofInt_toNat (value : UInt8) : UInt8.ofInt value.toNat = value := by
  have hlt : value.toNat < 256 := value.toNat_lt
  apply UInt8.toNat_inj.mp
  simp only [UInt8.ofInt, UInt8.toNat_ofNat']
  omega

theorem ofInt_getchar (byte : Option UInt8) :
    UInt8.ofInt (Statement.getchar byte) = byte.getD 255 := by
  cases byte with
  | none => rfl
  | some byte => exact ofInt_toNat byte

/-- A command and its line do the same to the memory. -/
theorem command?_eq_act? {i : Instruction} (h : (Token.leaf i).IsCommand) (m : Memory) :
    Jump.command? m (Token.leaf i).symbol = (Statement.ofToken (.leaf i)).act? m := by
  cases h with
  | forward => rfl
  | backward => rfl
  | increment =>
    have hbyte : ∀ value : UInt8, UInt8.ofInt (value.toNat + 1) = value + 1 := by
      intro value
      rw [UInt8.ofInt_add, ofInt_toNat]
      rfl
    change m.change? _ = m.change? fun value => some (UInt8.ofInt (value.toNat + 1))
    simp only [hbyte]
  | decrement =>
    have hbyte : ∀ value : UInt8, UInt8.ofInt (value.toNat + -1) = value - 1 := by
      intro value
      rw [UInt8.ofInt_add, ofInt_toNat, UInt8.sub_eq_add_neg]
      rfl
    change m.change? _ = m.change? fun value => some (UInt8.ofInt (value.toNat + -1))
    simp only [hbyte]
  | input =>
    change m.get? (fun byte => byte.getD 255) =
      m.get? fun byte => UInt8.ofInt (Statement.getchar byte)
    simp only [ofInt_getchar]
  | output => rfl

namespace Memory

theorem change?_eq_none {f : UInt8 → UInt8} {m : Memory}
    (h : (m.change? fun value => some (f value)) = none) : m.cell? = none := by
  cases hcell : m.cell? with
  | none => rfl
  | some value => simp [change?, hcell] at h

theorem put?_eq_none {m : Memory} (h : m.put? = none) : m.cell? = none := by
  cases hcell : m.cell? with
  | none => rfl
  | some value => simp [put?, hcell] at h

theorem get?_eq_none {store : Option UInt8 → UInt8} {m : Memory} (h : m.get? store = none) :
    m.cell? = none := by
  cases hcell : m.cell? with
  | none => rfl
  | some value => simp [get?, change?, hcell] at h

end Memory

/-- Only the lack of an active cell keeps a command from being done. -/
theorem cell?_eq_none_of_command? {i : Instruction} (hi : (Token.leaf i).IsCommand) {m : Memory}
    (h : Jump.command? m (Token.leaf i).symbol = none) : m.cell? = none := by
  cases hi with
  | forward => cases h
  | backward => cases h
  | increment => exact Memory.change?_eq_none h
  | decrement => exact Memory.change?_eq_none h
  | input =>
    have hget : m.get? (fun byte => byte.getD 255) = none := h
    exact Memory.get?_eq_none hget
  | output => exact Memory.put?_eq_none h

/-! ### States -/

/-- A machine that runs stands at one of `length` places or behind them, and one that is stuck has
no active cell. -/
def State.Within (length : Nat) (s : State) : Prop :=
  match s.control with
  | .running place => place ≤ length
  | .halted => True
  | .stuck => s.memory.cell? = none

namespace State

variable {length place : Nat} {m : Memory}

theorem within_proceed (hplace : place < length) {result : Option Memory}
    (h : result = none → m.cell? = none) : (proceed place m result).Within length := by
  cases result with
  | none => exact h rfl
  | some m' => exact hplace

theorem within_test (hplace : place < length) {ending : Nat} (hending : ending < length) :
    (test m place (some ending)).Within length := by
  rw [test]
  cases hcell : m.cell? with
  | none => exact hcell
  | some value =>
    by_cases hzero : value = 0
    · simp only [hzero, if_true, Option.map_some, jump, Within]
      omega
    · simp only [hzero, if_false, jump, Within]
      omega

end State

/-! ### Steps -/

section Steps

variable {program : Program} (hcommand : ∀ t ∈ program.tokens, t.IsCommand)
include hcommand

theorem closing?_symbols (place : Nat) :
    Jump.brackets.closing? (program.tokens.map Token.symbol) place =
      Token.brackets.closing? program.tokens place :=
  Brackets.closing?_map (fun t ht => (hcommand t ht).brackets_symbol) place

theorem opening?_symbols (place : Nat) :
    Jump.brackets.opening? (program.tokens.map Token.symbol) place =
      Token.brackets.opening? program.tokens place :=
  Brackets.opening?_map (fun t ht => (hcommand t ht).brackets_symbol) place

theorem closing?_statements {place other : Nat}
    (h : Token.brackets.closing? program.tokens place = some other) (more : List Statement) :
    Listing.brackets.closing? (program.tokens.map Statement.ofToken ++ more) place =
      some other := by
  apply Brackets.closing?_append
  rw [Brackets.closing?_map fun t ht => (hcommand t ht).brackets_ofToken, h]

theorem opening?_statements {place : Nat} (hplace : place ≤ program.tokens.length)
    (more : List Statement) :
    Listing.brackets.opening? (program.tokens.map Statement.ofToken ++ more) place =
      Token.brackets.opening? program.tokens place := by
  rw [Brackets.opening?_append (by simpa using hplace),
    Brackets.opening?_map fun t ht => (hcommand t ht).brackets_ofToken]

/-- Both machines do the same step, and stay within the program. -/
theorem step_eq {s : State} (h : s.Within program.tokens.length) :
    Jump.step (program.tokens.map Token.symbol) s =
        Listing.step (program.tokens.map Statement.ofToken ++ [.finish, .close]) s ∧
      (Jump.step (program.tokens.map Token.symbol) s).Within program.tokens.length := by
  obtain ⟨control, m⟩ := s
  cases control with
  | halted => exact ⟨rfl, h⟩
  | stuck => exact ⟨rfl, h⟩
  | running place =>
    have hplace : place ≤ program.tokens.length := h
    cases htoken : program.tokens[place]? with
    | none =>
      -- The last command is done: the source ends, and the code returns.
      have hend : place = program.tokens.length :=
        Nat.le_antisymm hplace (List.getElem?_eq_none_iff.mp htoken)
      have hcode : (program.tokens.map Token.symbol)[place]? = none := by simp [htoken]
      have hbody : (program.tokens.map Statement.ofToken ++ [.finish, .close])[place]? =
          some .finish := by simp [hend]
      rw [Jump.step_none hcode, Listing.step_finish hbody]
      exact ⟨rfl, trivial⟩
    | some t =>
      have hlt : place < program.tokens.length := (List.getElem?_eq_some_iff.mp htoken).1
      have ht : t.IsCommand := hcommand t (List.mem_of_getElem? htoken)
      have hcode : (program.tokens.map Token.symbol)[place]? = some t.symbol := by simp [htoken]
      have hbody : (program.tokens.map Statement.ofToken ++ [.finish, .close])[place]? =
          some (.ofToken t) := by
        rw [List.getElem?_append_left (by simpa using hlt), List.getElem?_map, htoken]
        rfl
      -- Both machines ask for the same token, and find the same partner of a bracket.
      cases t with
      | opening =>
        obtain ⟨other, hpartner, hother, -⟩ := Block.exists_closing htoken
        rw [Jump.step_opening hcode, Listing.step_loop hbody, closing?_symbols hcommand,
          closing?_statements hcommand hpartner, hpartner]
        exact ⟨rfl, State.within_test hlt (List.getElem?_eq_some_iff.mp hother).1⟩
      | closing =>
        obtain ⟨other, hpartner, hother, -⟩ := Block.exists_opening htoken
        have hstatements : Listing.brackets.opening?
            (program.tokens.map Statement.ofToken ++ [.finish, .close]) place = some other := by
          rw [opening?_statements hcommand hplace, hpartner]
        rw [Jump.step_closing hcode, Listing.step_close hbody hstatements,
          opening?_symbols hcommand, hpartner]
        exact ⟨rfl, Nat.le_of_lt (List.getElem?_eq_some_iff.mp hother).1⟩
      | leaf i =>
        rw [Jump.step_command hcode (by cases ht <;> decide) (by cases ht <;> decide),
          Listing.step_act hbody (by cases ht <;> decide) (by cases ht <;> decide)
            (by cases ht <;> decide), command?_eq_act? ht]
        refine ⟨rfl, State.within_proceed hlt fun hnone => cell?_eq_none_of_command? ht ?_⟩
        rw [command?_eq_act? ht, hnone]

/-- Both machines do the same steps. -/
theorem iterate_step_eq {s : State} (h : s.Within program.tokens.length) (n : Nat) :
    (Jump.step (program.tokens.map Token.symbol))^[n] s =
        (Listing.step (program.tokens.map Statement.ofToken ++ [.finish, .close]))^[n] s ∧
      ((Jump.step (program.tokens.map Token.symbol))^[n] s).Within program.tokens.length := by
  induction n with
  | zero => exact ⟨rfl, h⟩
  | succ n ih =>
    obtain ⟨hsteps, hwithin⟩ := ih
    obtain ⟨hstep, hnext⟩ := step_eq hcommand hwithin
    rw [Function.iterate_succ_apply', Function.iterate_succ_apply', ← hsteps]
    exact ⟨hstep, hnext⟩

end Steps

/-! ### Sources -/

/-- The tokens of a program that a source without inserts holds are commands. -/
theorem isCommand_of_parse {source : Text} {program : Program}
    (accepted : parse source = .ok program)
    (plain : program.EveryLeaf fun i => ∀ text, i ≠ .insert text) {t : Token Instruction}
    (ht : t ∈ program.tokens) : t.IsCommand := by
  obtain ⟨word, hword⟩ := (parse_eq_ok_iff.mp accepted).exists_spells ht
  apply Token.IsCommand.of_spells hword
  rintro text rfl
  exact Block.everyLeaf_iff.mp plain _ ht text rfl

/-- The commands of a source without inserts are the tokens of its program. -/
theorem withoutGaps_eq_map_symbol {source : Text} {program : Program}
    (accepted : parse source = .ok program)
    (hcommand : ∀ t ∈ program.tokens, t.IsCommand) :
    source.withoutGaps .code = program.tokens.map Token.symbol := by
  -- Every token is printed as one character, so the places of both rows are the same.
  rw [withoutGaps_of_parse accepted, Program.text_eq_flatMap]
  generalize program.tokens = ts at hcommand
  induction ts with
  | nil => rfl
  | cons t ts ih =>
    rw [List.flatMap_cons, (hcommand t (by simp)).text_eq, ih fun u hu => hcommand u (by simp [hu])]
    rfl

/-- A source that holds a program without inserts is compiled, and its code can be read line by
line. After any number of steps, on any input, the machine that runs the code is in the same state
as the machine that runs the source: they have the same tape, pointer, input and output, and both
are at the same place, at the end, or stuck. They are stuck only where there is no active cell.

All this holds as long as the number of all cells can be written. Otherwise nothing is compiled. -/
theorem compile_simulates {o : Options} {source : Text} {program : Program}
    (accepted : parse source = .ok program)
    (plain : program.EveryLeaf fun i => ∀ text, i ≠ .insert text) :
    (Tape.isWritable (o.pre + o.post) = true →
      ∃ code listing,
        (o.settings (.text Indentation.standard)).compile source = .ok code ∧
        Listing.ofText? code.text = some listing ∧
        ∀ (input : Stream'.Seq UInt8) (n : Nat),
          Jump.run source (.blank (o.pre + o.post) o.pre input) n = listing.run input n ∧
          ((listing.run input n).control = .stuck →
            (listing.run input n).memory.cell? = none)) ∧
    (Tape.isWritable (o.pre + o.post) = false →
      (o.settings (.text Indentation.standard)).compile source = .error (.tape .unwritable)) := by
  have hcommand : ∀ t ∈ program.tokens, t.IsCommand := fun _ => isCommand_of_parse accepted plain
  constructor
  · intro writable
    refine ⟨o.code Indentation.standard program, _, ?_,
      o.ofText?_code fun text ht => (hcommand _ ht).ne_insert text rfl, ?_⟩
    · rw [Options.compile_eq, accepted]
      simp only [writable, if_true]
    · intro input n
      -- The first place is within every program, and from there on both machines stay within it.
      have hstart : (State.start (.blank (o.pre + o.post) o.pre input)).Within
          program.tokens.length := Nat.zero_le _
      obtain ⟨hsteps, hwithin⟩ := iterate_step_eq hcommand hstart n
      rw [Jump.run, withoutGaps_eq_map_symbol accepted hcommand, Listing.run, ← hsteps]
      refine ⟨rfl, fun hstuck => ?_⟩
      rw [State.Within, hstuck] at hwithin
      exact hwithin
  · intro unwritable
    rw [Options.compile_eq, accepted]
    simp [unwritable]

/-- A loop that is left after one pass, run on a single cell: both machines come to the end in six
steps. -/
theorem compile_simulates_loop :
    parse ['+', '#', '[', '#', '[', '-', ']'] =
        .ok [.leaf (.cell .add 1), .loop [.leaf (.cell .add (-1))]] ∧
      ∃ code listing,
        (({ pre := 0, post := 1 } : Options).settings (.text Indentation.standard)).compile
          ['+', '#', '[', '#', '[', '-', ']'] = .ok code ∧
        Listing.ofText? code.text = some listing ∧
        (listing.run .nil 5).control = .running 4 ∧ (listing.run .nil 6).control = .halted := by
  have hcomment : IsGap ['#', '[', '#'] := .comment (by decide : '#' ∉ ['[']) .nil
  have hrow := IsRow.cons .nil .increment (.cons hcomment .opening (.cons .nil .decrement
    (.cons .nil .closing (.nil .nil))))
  have accepted : parse ['+', '#', '[', '#', '[', '-', ']'] =
      .ok [.leaf (.cell .add 1), .loop [.leaf (.cell .add (-1))]] := by
    rw [parse_eq_ok_iff]
    simpa using hrow
  refine ⟨accepted, ?_⟩
  have hsimulates := @compile_simulates { pre := 0, post := 1 } _ _ accepted
    (.leaf (by simp) (.loop (.leaf (by simp) .nil) .nil))
  obtain ⟨code, listing, hcompile, hlisting, hrun⟩ := hsimulates.1 (by decide +kernel)
  refine ⟨code, listing, hcompile, hlisting, ?_, ?_⟩
  · rw [← (hrun .nil 5).1]
    rfl
  · rw [← (hrun .nil 6).1]
    rfl

/-- A tape of `10 ^ 4300` cells is accepted, but there is no code that would run on it. -/
theorem not_forall_compile_simulates :
    ¬ ∀ (o : Options) (source : Text) (program : Program), parse source = .ok program →
      program.EveryLeaf (fun i => ∀ text, i ≠ .insert text) →
      ∃ code listing,
        (o.settings (.text Indentation.standard)).compile source = .ok code ∧
        Listing.ofText? code.text = some listing ∧
        ∀ (input : Stream'.Seq UInt8) (n : Nat),
          Jump.run source (.blank (o.pre + o.post) o.pre input) n = listing.run input n := by
  intro h
  have accepted : parse ['.'] = .ok [.leaf .output] := by
    rw [parse_eq_ok_iff]
    simpa using IsRow.word .output
  obtain ⟨code, listing, hcompile, -⟩ := h .vast ['.'] _ accepted (.leaf (by simp) .nil)
  rw [Options.compile_vast _ accepted] at hcompile
  cases hcompile

end TapeCompiler
