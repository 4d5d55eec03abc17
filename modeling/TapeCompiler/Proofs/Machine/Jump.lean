import TapeCompiler.Proofs.Machine.Brackets
import TapeCompiler.Proofs.Machine.Memory
import TapeCompiler.Proofs.Source.Gapless

/-!
# Running a source

A source can be run as it stands, without a program being built from it. Its gaps are left out, and
each of the other characters is a command. At the brackets of a loop the machine jumps to the
partner: at an opening one if the active cell is zero, and at a closing one always.

## Main definitions

* `Jump.command?` — what a command does to the memory
* `Jump.step` — a step of the machine
* `Jump.run` — the state after some steps
-/

namespace TapeCompiler

namespace Jump

/-- The brackets among the commands. -/
def brackets : Brackets Char where
  opens c := c = '['
  closes c := c = ']'

/-- What a command that is no bracket does to the memory. -/
def command? (m : Memory) : Char → Option Memory
  | '>' => some (m.move 1)
  | '<' => some (m.move (-1))
  | '+' => m.change? fun value => some (value + 1)
  | '-' => m.change? fun value => some (value - 1)
  | '.' => m.put?
  | ',' => m.get? fun byte => byte.getD 255
  | _ => none

/-- A step of the machine that runs a text of commands. -/
def step (commands : Text) (s : State) : State :=
  match s.control with
  | .running place =>
    match commands[place]? with
    | some '[' => .test s.memory place (brackets.closing? commands place)
    | some ']' => .jump s.memory (brackets.opening? commands place)
    | some c => .proceed place s.memory (command? s.memory c)
    | none => ⟨.halted, s.memory⟩
  | _ => s

/-- The state after `n` steps through a source. -/
def run (source : Text) (m : Memory) (n : Nat) : State :=
  (step (source.withoutGaps .code))^[n] (.start m)

/-! ### Steps -/

variable {commands : Text} {place : Nat}

theorem step_opening (h : commands[place]? = some '[') (m : Memory) :
    step commands ⟨.running place, m⟩ = .test m place (brackets.closing? commands place) := by
  simp only [step, h]

theorem step_closing (h : commands[place]? = some ']') (m : Memory) :
    step commands ⟨.running place, m⟩ = .jump m (brackets.opening? commands place) := by
  simp only [step, h]

theorem step_command {c : Char} (h : commands[place]? = some c) (hopening : c ≠ '[')
    (hclosing : c ≠ ']') (m : Memory) :
    step commands ⟨.running place, m⟩ = .proceed place m (command? m c) := by
  simp only [step, h]

theorem step_none (h : commands[place]? = none) (m : Memory) :
    step commands ⟨.running place, m⟩ = ⟨.halted, m⟩ := by
  simp only [step, h]

end Jump

end TapeCompiler
