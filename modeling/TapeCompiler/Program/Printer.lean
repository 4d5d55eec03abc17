import TapeCompiler.Program.Traversal
import TapeCompiler.Text.Numeral

/-!
# Printing programs

A program is printed in the notation in which sources are written. An instruction that has a
spelling of one character gets it; any other is shown by a sign and a number in parentheses, which
no source can hold, and a move by nothing leaves no trace.

## Main definitions

* `Instruction.text` — the printed form of an instruction
* `Program.text` — the printed form of a program
* `Draft.text`, `Node.text` — the printed form of a draft and of one of its statements, or the first
  foreign statement in it
-/

namespace TapeCompiler

variable {α ε : Type}

namespace Instruction

/-- A sign with a number in parentheses. -/
def withNumber (sign : Char) (n : Int32) : Text :=
  sign :: '(' :: Numeral.ofInt n.toInt ++ [')']

/-- The printed form of an instruction. -/
def text : Instruction → Text
  | move offset =>
    if offset = 1 then ['>']
    else if offset = -1 then ['<']
    else if offset = 0 then []
    else if 0 < offset then withNumber '>' offset
    else withNumber '<' offset
  | cell op operand =>
    if op = .add ∧ operand = 1 then ['+']
    else if op = .add ∧ operand = -1 then ['-']
    else withNumber op.symbol operand
  | output => ['.']
  | input => [',']
  | insert text => ':' :: ':' :: text ++ [':', ':']

end Instruction

/-- The printed form of an item, or the label of a foreign statement. -/
def Item.text : Item → Except Nat Text
  | instr i => .ok i.text
  | foreign label => .error label

/-- The printed form of a step of the walk through a program. -/
def Visit.text (leaf : α → Text) : Visit α → Text
  | .leaf a => leaf a
  | .enter _ => ['[']
  | .leave => [']']

/-- The printed form of a step of the walk where a leaf may have none. -/
def Visit.text? (leaf : α → Except ε Text) : Visit α → Except ε Text
  | .leaf a => leaf a
  | .enter _ => .ok ['[']
  | .leave => .ok [']']

/-- The printed form of a program. -/
def Program.text (program : Program) : Text :=
  (program.visits.map (Visit.text Instruction.text)).flatten

/-- The printed form of a draft, or the label of the first foreign statement. -/
def Draft.text (draft : Draft) : Except Nat Text := do
  let pieces ← draft.visits.mapM (Visit.text? Item.text)
  return pieces.flatten

/-- The printed form of a single statement of a draft. -/
def Node.text : Node Item → Except Nat Text
  | .leaf a => a.text
  | .loop body => do
    let inner ← Draft.text body
    return '[' :: inner ++ [']']

end TapeCompiler
