import TapeCompiler.CommandLine.Compiler
import TapeCompiler.Proofs.Arguments.Line
import TapeCompiler.Proofs.Text.Reading

/-!
# Plain command lines of the compiler

The flags of the compiler are told by their full names. So a command line that starts with the path
of its source, and goes on with such names and their values, asks for what it says.

## Main definitions

* `Compiler.IsSize` — a word of the command line gives a size

## Main results

* `Compiler.isSize_ofNat` — every size that can be written is given by its numeral
* `Compiler.read_print`, `Compiler.read_printTo`, `Compiler.read_sizes` — the command lines
-/

namespace TapeCompiler.CommandLine.Compiler

open Arguments

/-- A word of the command line that gives a size. -/
def IsSize (word : Text) (n : Nat) : Prop :=
  IsOperand word ∧ IntegerLiteral.read? word = some (n : Int)

/-- Every number of cells that can be written is given by its numeral. -/
theorem isSize_ofNat {n : Nat} (h : n < Tape.tooLarge) : IsSize (Numeral.ofNat n) n := by
  have hlength : (Numeral.ofNat n).length ≤ IntegerLiteral.maxLength := by
    have hpos : 0 < IntegerLiteral.maxLength := by decide
    unfold Tape.tooLarge Numeral.tooLarge at h
    unfold IntegerLiteral.maxLength at hpos ⊢
    generalize 4300 = digits at h hpos ⊢
    exact Numeral.length_ofNat_le hpos h
  refine ⟨fun hhead => ?_, IntegerLiteral.read?_ofNat hlength⟩
  exact Numeral.not_mem_ofNat (by decide) n (List.mem_of_head? hhead)

/-! ### Flags -/

theorem exists_printFlag : ∃ f, IsFlag command "--print-ir".toList f ∧ f.takesValue = false ∧
    ∀ i, apply f [] i = .ok (.set { i with printProgram := true }) :=
  ⟨_, ⟨by decide, by with_unfolding_all rfl⟩, rfl, fun _ => rfl⟩

theorem exists_emitFlag : ∃ f, IsFlag command "-o".toList f ∧ f.takesValue = true ∧
    ∀ v, IsOperand v → ∀ i, apply f v i = .ok (.set { i with emit := v }) := by
  refine ⟨_, ⟨by decide, by with_unfolding_all rfl⟩, rfl, fun v hv i => ?_⟩
  simp only [apply, valueOf, if_neg hv.ne_dashes]
  rfl

theorem exists_preFlag : ∃ f, IsFlag command "--pre".toList f ∧ f.takesValue = true ∧
    ∀ v n, IsSize v n → ∀ i,
      apply f v i = .ok (.set { i with options := { i.options with pre := .int n } }) := by
  refine ⟨_, ⟨by decide, by with_unfolding_all rfl⟩, rfl, fun v n hv i => ?_⟩
  exact apply_integer rfl hv.1.ne_dashes hv.2 rfl

theorem exists_postFlag : ∃ f, IsFlag command "--post".toList f ∧ f.takesValue = true ∧
    ∀ v n, IsSize v n → ∀ i,
      apply f v i = .ok (.set { i with options := { i.options with post := .int n } }) := by
  refine ⟨_, ⟨by decide, by with_unfolding_all rfl⟩, rfl, fun v n hv i => ?_⟩
  exact apply_integer rfl hv.1.ne_dashes hv.2 rfl

/-! ### Command lines -/

theorem read_print {source : Text} (hsource : IsOperand source) :
    command.read {} [source, "--print-ir".toList] =
      .ok (.set { source, printProgram := true }) := by
  obtain ⟨print, hprint, hswitch, happly⟩ := exists_printFlag
  exact Command.read_of_sets rfl hsource (.switch hprint hswitch (happly _) .nil)

theorem read_printTo {source emit : Text} (hsource : IsOperand source) (hemit : IsOperand emit) :
    command.read {} [source, "--print-ir".toList, "-o".toList, emit] =
      .ok (.set { source, emit, printProgram := true }) := by
  obtain ⟨print, hprint, hswitch, happly⟩ := exists_printFlag
  obtain ⟨emitFlag, hflag, htakes, hset⟩ := exists_emitFlag
  exact Command.read_of_sets rfl hsource (.switch hprint hswitch (happly _)
    (.value hflag htakes hemit (hset _ hemit _) .nil))

theorem read_sizes {source p q : Text} {pre post : Nat} (hsource : IsOperand source)
    (hp : IsSize p pre) (hq : IsSize q post) :
    command.read {} [source, "--pre".toList, p, "--post".toList, q] =
      .ok (.set { source, options := { pre := .int pre, post := .int post } }) := by
  obtain ⟨preFlag, hpre, hpre_takes, hpre_set⟩ := exists_preFlag
  obtain ⟨postFlag, hpost, hpost_takes, hpost_set⟩ := exists_postFlag
  exact Command.read_of_sets rfl hsource (.value hpre hpre_takes hp.1 (hpre_set _ _ hp _)
    (.value hpost hpost_takes hq.1 (hpost_set _ _ hq _) .nil))

end TapeCompiler.CommandLine.Compiler
