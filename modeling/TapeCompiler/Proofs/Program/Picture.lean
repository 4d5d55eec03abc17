import TapeCompiler.Proofs.Source.RoundTrip
import TapeCompiler.Proofs.Text.Numeral

/-!
# What the printed form of a program tells

More is printed than can be read: an instruction without a spelling in the source shows a sign and a
number in parentheses. Still the printed form tells the program, but for the moves by nothing, which
leave no trace in it. A printed token can be told from what follows it, although a bare sign such as
`+` may also begin a longer form such as `+(5)`: no printed form begins with a parenthesis, so a
parenthesis behind a sign belongs to that sign.

## Main definitions

* `Instruction.IsEnclosable` — an instruction that is no insert, or one that ends where it is closed
* `Program.withoutIdle` — a program without its moves by nothing
* `ShowsNumber` — the printed forms with a number
* `Prints` — the printed forms of tokens that leave a trace

## Main results

* `Program.tokens_withoutIdle`, `Program.text_withoutIdle` — moves by nothing leave no trace
* `ShowsNumber.append_inj`, `Prints.append_inj` — a printed form can be told from what follows it
* `flatMap_text_inj` — a row of tokens can be told from its printed form
* `Program.text_eq_text_iff` — the programs with the same printed form
-/

namespace TapeCompiler

/-- If the instruction is an insert, its text neither holds a double colon nor ends in a colon. -/
def Instruction.IsEnclosable : Instruction → Prop
  | insert t => ¬ [':', ':'] <:+: t ∧ ¬ [':'] <:+ t
  | _ => True

/-! ### Moves by nothing -/

namespace Program

/-- A program without its moves by nothing, at every depth. -/
def withoutIdle : Program → Program
  | [] => []
  | .leaf i :: rest => (if i = .move 0 then [] else [.leaf i]) ++ withoutIdle rest
  | .loop body :: rest => .loop (withoutIdle body) :: withoutIdle rest

theorem tokens_withoutIdle (program : Program) :
    (withoutIdle program).tokens = program.tokens.filter (· ≠ .leaf (.move 0)) := by
  induction program using Block.tree_induction with
  | nil => simp [withoutIdle]
  | leaf i rest ih =>
    rw [withoutIdle, Block.tokens_leaf]
    by_cases hi : i = .move 0
    · simp [hi, ih]
    · simp [hi, ih]
  | loop body rest ih_body ih_rest => simp [withoutIdle, ih_body, ih_rest]

end Program

theorem flatMap_text_filter (ts : List (Token Instruction)) :
    (ts.filter (· ≠ .leaf (.move 0))).flatMap Token.text = ts.flatMap Token.text := by
  induction ts with
  | nil => rfl
  | cons t ts ih =>
    by_cases ht : t = .leaf (.move 0)
    · have hnothing : Token.text (.leaf (.move 0)) = [] := by decide
      rw [List.filter_cons_of_neg (by simpa using ht), ih, ht, List.flatMap_cons, hnothing,
        List.nil_append]
    · rw [List.filter_cons_of_pos (by simpa using ht), List.flatMap_cons, List.flatMap_cons, ih]

/-- Moves by nothing leave no trace in the printed form. -/
theorem Program.text_withoutIdle (program : Program) :
    Program.text (withoutIdle program) = Program.text program := by
  rw [text_eq_flatMap, text_eq_flatMap, tokens_withoutIdle, flatMap_text_filter]

/-! ### Numbers -/

/-- The printed form of an instruction that shows a number. -/
inductive ShowsNumber : Text → Instruction → Prop
  /-- A move. -/
  | move {sign : Char} {n : Int32} (hsign : sign ∈ ['>', '<']) :
      ShowsNumber (Instruction.withNumber sign n) (.move n)
  /-- A change of the active cell. -/
  | cell {op : Operator} {n : Int32} :
      ShowsNumber (Instruction.withNumber op.symbol n) (.cell op n)

/-- An instruction that leaves a trace is printed as it is spelled, or with a number. -/
theorem Instruction.IsEnclosable.isBare_or_showsNumber {i : Instruction} (h : i.IsEnclosable)
    (hidle : i ≠ .move 0) : i.IsBare ∨ ShowsNumber i.text i := by
  cases i with
  | move offset =>
    by_cases hbare : (Instruction.move offset).IsBare
    · exact .inl hbare
    · obtain ⟨hforward, hbackward⟩ := not_or.mp hbare
      have hzero : offset ≠ 0 := fun hzero => hidle (by rw [hzero])
      rw [text, if_neg hforward, if_neg hbackward, if_neg hzero]
      split
      · exact .inr (.move (by simp))
      · exact .inr (.move (by simp))
  | cell op operand =>
    by_cases hbare : (Instruction.cell op operand).IsBare
    · exact .inl hbare
    · have hincrement : ¬ (op = .add ∧ operand = 1) := fun h => hbare ⟨h.1, .inl h.2⟩
      have hdecrement : ¬ (op = .add ∧ operand = -1) := fun h => hbare ⟨h.1, .inr h.2⟩
      rw [text, if_neg hincrement, if_neg hdecrement]
      exact .inr .cell
  | output => exact .inl trivial
  | input => exact .inl trivial
  | insert t => exact .inl h

theorem withNumber_append_inj {sign sign' : Char} {n n' : Int32} {rest rest' : Text}
    (h : Instruction.withNumber sign n ++ rest = Instruction.withNumber sign' n' ++ rest') :
    sign = sign' ∧ n = n' ∧ rest = rest' := by
  simp only [Instruction.withNumber, List.cons_append, List.append_assoc, List.nil_append,
    List.cons.injEq, true_and] at h
  obtain ⟨hsign, hnumber⟩ := h
  obtain ⟨hvalue, hrest⟩ := Numeral.ofInt_append_inj (by decide) (by decide) hnumber
  exact ⟨hsign, Int32.toInt_inj.mp hvalue, hrest⟩

theorem Operator.symbol_injective : Function.Injective symbol := by
  intro op op' h
  have hread := congrArg (ofSymbol? [·]) h
  simpa only [ofSymbol?_symbol, Option.some_inj] using hread

theorem Operator.symbol_not_mem (op : Operator) : op.symbol ∉ ['>', '<'] := by
  cases op <;> decide

/-- An instruction can be told from its printed form with a number, whatever follows. -/
theorem ShowsNumber.append_inj {text text' rest rest' : Text} {i i' : Instruction}
    (h : ShowsNumber text i) (h' : ShowsNumber text' i') (heq : text ++ rest = text' ++ rest') :
    i = i' ∧ rest = rest' := by
  cases h with
  | move hsign =>
    cases h' with
    | move _ =>
      obtain ⟨-, rfl, hrest⟩ := withNumber_append_inj heq
      exact ⟨rfl, hrest⟩
    | @cell op _ =>
      obtain ⟨rfl, -⟩ := withNumber_append_inj heq
      exact absurd hsign op.symbol_not_mem
  | @cell op _ =>
    cases h' with
    | move hsign =>
      obtain ⟨rfl, -⟩ := withNumber_append_inj heq
      exact absurd hsign op.symbol_not_mem
    | cell =>
      obtain ⟨hop, rfl, hrest⟩ := withNumber_append_inj heq
      rw [Operator.symbol_injective hop]
      exact ⟨rfl, hrest⟩

/-! ### Printed tokens -/

/-- The printed form of a token that leaves a trace. -/
inductive Prints : Text → Token Instruction → Prop
  /-- A word of the source. -/
  | word {text : Text} {t : Token Instruction} (h : Spells text t) : Prints text t
  /-- A sign with a number. -/
  | number {text : Text} {i : Instruction} (h : ShowsNumber text i) : Prints text (.leaf i)

/-- A text that does not begin with a number in parentheses. -/
def NoNumber (t : Text) : Prop :=
  t.head? ≠ some '('

theorem ShowsNumber.exists_eq_cons {text : Text} {i : Instruction} (h : ShowsNumber text i) :
    ∃ sign number, text = sign :: '(' :: number ∧ sign ≠ ':' ∧ sign ≠ '(' := by
  cases h with
  | move hsign =>
    refine ⟨_, _, rfl, ?_, ?_⟩
    · rintro rfl
      simp at hsign
    · rintro rfl
      simp at hsign
  | @cell op _ => exact ⟨_, _, rfl, by cases op <;> decide, by cases op <;> decide⟩

/-- A word that is not followed by a number is not the beginning of a form with a number. -/
theorem Spells.append_ne {word text rest rest' : Text} {t : Token Instruction} {i : Instruction}
    (h : Spells word t) (hrest : NoNumber rest) (h' : ShowsNumber text i) :
    word ++ rest ≠ text ++ rest' := by
  obtain ⟨sign, number, rfl, hsign, -⟩ := h'.exists_eq_cons
  intro heq
  cases h with
  | insert _ => exact hsign (List.cons.inj heq).1.symm
  | _ =>
    have hparenthesis : rest = '(' :: (number ++ rest') := (List.cons.inj heq).2
    rw [hparenthesis] at hrest
    exact hrest rfl

namespace Prints

variable {text text' : Text} {t t' : Token Instruction}

theorem noNumber_append (h : Prints text t) (rest : Text) : NoNumber (text ++ rest) := by
  cases h with
  | word hword => cases hword <;> exact fun hhead => by cases hhead
  | number hnumber =>
    obtain ⟨sign, number, rfl, -, hsign⟩ := hnumber.exists_eq_cons
    exact fun hhead => hsign (Option.some.inj hhead)

theorem ne_nil (h : Prints text t) : text ≠ [] := by
  cases h with
  | word hword => exact hword.ne_nil
  | number hnumber =>
    obtain ⟨sign, number, rfl, -⟩ := hnumber.exists_eq_cons
    exact List.cons_ne_nil _ _

/-- A token can be told from its printed form if no number follows it. -/
theorem append_inj {rest rest' : Text} (h : Prints text t) (h' : Prints text' t')
    (hrest : NoNumber rest) (hrest' : NoNumber rest') (heq : text ++ rest = text' ++ rest') :
    t = t' ∧ rest = rest' := by
  cases h with
  | word hword =>
    cases h' with
    | word hword' => exact IsRow.eq_of_gap_word .nil hword .nil hword' heq
    | number hnumber' => exact absurd heq (hword.append_ne hrest hnumber')
  | number hnumber =>
    cases h' with
    | word hword' => exact absurd heq.symm (hword'.append_ne hrest' hnumber)
    | number hnumber' =>
      obtain ⟨rfl, hrests⟩ := hnumber.append_inj hnumber' heq
      exact ⟨rfl, hrests⟩

end Prints

/-! ### Printed programs -/

theorem noNumber_flatMap_text {ts : List (Token Instruction)} (h : ∀ t ∈ ts, Prints t.text t) :
    NoNumber (ts.flatMap Token.text) := by
  cases ts with
  | nil => exact fun hhead => by cases hhead
  | cons t ts =>
    rw [List.flatMap_cons]
    exact (h t List.mem_cons_self).noNumber_append _

/-- A row of tokens that leave a trace can be told from its printed form. -/
theorem flatMap_text_inj {ts us : List (Token Instruction)} (hts : ∀ t ∈ ts, Prints t.text t)
    (hus : ∀ u ∈ us, Prints u.text u) (h : ts.flatMap Token.text = us.flatMap Token.text) :
    ts = us := by
  induction ts generalizing us with
  | nil =>
    cases us with
    | nil => rfl
    | cons u us =>
      obtain ⟨hnil, -⟩ := List.append_eq_nil_iff.mp h.symm
      exact absurd hnil (hus u List.mem_cons_self).ne_nil
  | cons t ts ih =>
    obtain ⟨ht, hts⟩ := List.forall_mem_cons.mp hts
    cases us with
    | nil =>
      obtain ⟨hnil, -⟩ := List.append_eq_nil_iff.mp h
      exact absurd hnil ht.ne_nil
    | cons u us =>
      obtain ⟨hu, hothers⟩ := List.forall_mem_cons.mp hus
      rw [List.flatMap_cons, List.flatMap_cons] at h
      obtain ⟨rfl, hrest⟩ :=
        ht.append_inj hu (noNumber_flatMap_text hts) (noNumber_flatMap_text hothers) h
      rw [ih hts hothers hrest]

/-- Without its moves by nothing, every token of a program leaves a trace. -/
theorem prints_of_mem_tokens {program : Program} (h : program.EveryLeaf Instruction.IsEnclosable)
    {t : Token Instruction} (ht : t ∈ (Program.withoutIdle program).tokens) : Prints t.text t := by
  rw [Program.tokens_withoutIdle] at ht
  obtain ⟨hmem, hidle⟩ := List.mem_filter.mp ht
  cases t with
  | opening => exact .word .opening
  | closing => exact .word .closing
  | leaf i =>
    have hi : i ≠ .move 0 := by simpa using hidle
    rcases (Block.everyLeaf_iff.mp h i hmem).isBare_or_showsNumber hi with hbare | hnumber
    · exact .word hbare.spells
    · exact .number hnumber

/-- Two programs have the same printed form if and only if they are the same tree, apart from moves
by nothing. -/
theorem Program.text_eq_text_iff {program other : Program}
    (hprogram : program.EveryLeaf Instruction.IsEnclosable)
    (hother : other.EveryLeaf Instruction.IsEnclosable) :
    Program.text program = Program.text other ↔ withoutIdle program = withoutIdle other := by
  constructor
  · intro h
    rw [← text_withoutIdle program, ← text_withoutIdle other, text_eq_flatMap,
      text_eq_flatMap] at h
    apply Block.tokens_injective
    exact flatMap_text_inj (fun t => prints_of_mem_tokens hprogram)
      (fun t => prints_of_mem_tokens hother) h
  · intro h
    rw [← text_withoutIdle program, h, text_withoutIdle]

/-- A bare sign and one with a number are told apart, and moves by nothing are not. -/
theorem Program.text_eq_text_iff_signs :
    Program.text [.loop [.leaf (.move 0), .leaf (.cell .add 1)], .leaf (.insert [':', 'a'])] =
        Program.text [.loop [.leaf (.cell .add 1)], .leaf (.insert [':', 'a']), .leaf (.move 0)] ∧
      Program.text [.leaf (.cell .add 1), .leaf (.cell .add (-5))] ≠
        Program.text [.leaf (.cell .add (-5)), .leaf (.cell .add 1)] := by
  have hinsert : ¬ [':', ':'] <:+: [':', 'a'] ∧ ¬ [':'] <:+ [':', 'a'] := by decide
  constructor
  · rw [Program.text_eq_text_iff]
    · simp [withoutIdle]
    · simp [Instruction.IsEnclosable, hinsert]
    · simp [Instruction.IsEnclosable, hinsert]
  · rw [Ne, Program.text_eq_text_iff]
    · simp [withoutIdle]
    · simp [Instruction.IsEnclosable]
    · simp [Instruction.IsEnclosable]

end TapeCompiler
