import TapeCompiler.Arguments.Reader

/-!
# Plain command lines

A word that does not start with a dash is an operand, whatever else is in it. So a command line that
starts with its operand and goes on with flags under their own names, each with its value in the
word behind it if it takes one, is read flag by flag.

## Main definitions

* `Arguments.IsOperand`, `Arguments.IsFlag` — words that are told by themselves
* `Arguments.Sets` — flags with their values, and what they set

## Main results

* `Arguments.Sets.exists_words` — such words are classified, and read to their end
* `Command.read_of_sets` — the operand in front of them
-/

namespace TapeCompiler

namespace Arguments

variable {σ : Type} {c : Command σ}

/-- A word that does not start with a dash. -/
def IsOperand (t : Text) : Prop :=
  t.head? ≠ some '-'

instance (t : Text) : Decidable (IsOperand t) :=
  inferInstanceAs (Decidable (t.head? ≠ some '-'))

/-- A word that is the name of a flag. -/
def IsFlag (c : Command σ) (name : Text) (f : Flag σ) : Prop :=
  name ≠ dashes ∧ word c name = .ok (.flag f name none)

/-- Flags under their names with their values behind them, and what they make of what was set before
them. -/
inductive Sets (c : Command σ) : List Text → σ → σ → Prop
  /-- No flag. -/
  | nil {s : σ} : Sets c [] s s
  /-- A flag without a value in front. -/
  | switch {name : Text} {f : Flag σ} {line : List Text} {s t u : σ} (hflag : IsFlag c name f)
      (htakes : f.takesValue = false) (happly : apply f [] s = .ok (.set t))
      (hrest : Sets c line t u) : Sets c (name :: line) s u
  /-- A flag with its value in front. -/
  | value {name v : Text} {f : Flag σ} {line : List Text} {s t u : σ} (hflag : IsFlag c name f)
      (htakes : f.takesValue = true) (hvalue : IsOperand v) (happly : apply f v s = .ok (.set t))
      (hrest : Sets c line t u) : Sets c (name :: v :: line) s u

/-! ### Words -/

theorem IsOperand.ne_dashes {t : Text} (h : IsOperand t) : t ≠ dashes := by
  rintro rfl
  exact h rfl

theorem IsOperand.word_eq {t : Text} (h : IsOperand t) : word c t = .ok (.operand t) := by
  unfold word
  split
  · exact absurd rfl h
  · rfl

theorem words_cons {t : Text} {line : List Text} {w : Word σ} {ws : List (Word σ)}
    (ht : t ≠ dashes) (hword : word c t = .ok w) (hline : words c line = .ok ws) :
    words c (t :: line) = .ok (w :: ws) := by
  rw [words, if_neg ht, hword, hline]
  rfl

theorem IsOperand.words_cons {t : Text} {line : List Text} {ws : List (Word σ)} (h : IsOperand t)
    (hline : words c line = .ok ws) : words c (t :: line) = .ok (.operand t :: ws) :=
  Arguments.words_cons h.ne_dashes h.word_eq hline

/-! ### Reading -/

/-- A flag for an integer sets the integer that its value is read as. -/
theorem apply_integer {f : Flag σ} {set : Json → σ → σ} (heffect : f.effect = .value integer set)
    {v : Text} {n : Int} (hv : v ≠ dashes) (hread : IntegerLiteral.read? v = some n) {s t : σ}
    (hset : set (.int n) s = t) : apply f v s = .ok (.set t) := by
  rw [← hset]
  simp only [apply, heffect, valueOf, if_neg hv, integer, hread]
  rfl

namespace Reading

/-- A flag without a value sets what it sets. -/
theorem run_switch {f : Flag σ} {r : Reading σ} {t : σ} (htakes : f.takesValue = false)
    (happly : apply f [] r.result = .ok (.set t)) (name : Text) (ws : List (Word σ)) :
    run c r (.flag f name none :: ws) = run c { r.pass with result := t } ws := by
  simp only [run, bundleOf, bind, Except.bind, Bundle.needsWord, htakes, Bool.false_and,
    Bool.false_eq_true, if_false, applyBundle, applyAll, Option.getD_none, happly]

/-- A flag with its value in the next word sets what it sets. -/
theorem run_value {f : Flag σ} {r : Reading σ} {v : Text} {t : σ} (htakes : f.takesValue = true)
    (happly : apply f v r.result = .ok (.set t)) (name : Text) (ws : List (Word σ)) :
    run c r (.flag f name none :: .operand v :: ws) = run c { r.pass with result := t } ws := by
  simp only [run, bundleOf, bind, Except.bind, Bundle.needsWord, htakes, Bool.true_and,
    Option.isNone_none, if_true, applyBundle, applyAll, happly]

end Reading

/-- Flags with their values are classified, and once the operand was met they are read to the
end. -/
theorem Sets.exists_words {line : List Text} {s u : σ} (h : Sets c line s u) :
    ∃ ws, words c line = .ok ws ∧ ∀ status, status ≠ .awaited →
      Reading.run c { result := s, status } ws = .ok (.set u) := by
  have hpass : ∀ {status : OperandStatus}, status ≠ .awaited →
      (if status = .justMet then .closed else status) ≠ OperandStatus.awaited := by
    intro status hstatus
    split
    · decide
    · exact hstatus
  induction h with
  | nil =>
    refine ⟨[], rfl, fun status hstatus => ?_⟩
    cases status with
    | awaited => exact absurd rfl hstatus
    | justMet => rfl
    | closed => rfl
  | @switch name f line s t u hflag htakes happly hrest ih =>
    obtain ⟨ws, hws, hrun⟩ := ih
    refine ⟨_, words_cons hflag.1 hflag.2 hws, fun status hstatus => ?_⟩
    rw [Reading.run_switch htakes happly]
    exact hrun _ (hpass hstatus)
  | @value name v f line s t u hflag htakes hvalue happly hrest ih =>
    obtain ⟨ws, hws, hrun⟩ := ih
    refine ⟨_, words_cons hflag.1 hflag.2 (hvalue.words_cons hws), fun status hstatus => ?_⟩
    rw [Reading.run_value htakes happly]
    exact hrun _ (hpass hstatus)

end Arguments

open Arguments

/-- A command line that starts with its operand and goes on with flags is read flag by flag. -/
theorem Command.read_of_sets {σ : Type} {c : Command σ} {o : Operand σ}
    (hoperand : c.operand = some o) {t : Text} (ht : IsOperand t) {line : List Text} {s u : σ}
    (h : Sets c line (o.set t s) u) : c.read s (t :: line) = .ok (.set u) := by
  obtain ⟨ws, hws, hrun⟩ := h.exists_words
  have hmet : Arguments.Reading.run c { result := s, status := .awaited } (.operand t :: ws) =
      Arguments.Reading.run c { result := o.set t s, status := .justMet } ws := by
    rw [Arguments.Reading.run, Arguments.Reading.operand]
    simp only [hoperand]
  simp only [read, ht.words_cons hws, bind, Except.bind, hoperand, Option.isSome_some, if_true,
    hmet, hrun .justMet (by decide)]

end TapeCompiler
