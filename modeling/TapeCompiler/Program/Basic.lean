import TapeCompiler.Text.Basic

/-!
# Programs

A program is a tree: a sequence of instructions and of loops around such sequences. Operands are
integers of 32 bits with a sign.

The type of trees is open in its leaves. A `Program` has instructions at the leaves; a `Draft` may
also hold statements of kinds that are defined elsewhere.

## Main definitions

* `Operator`, `Instruction` — what a single statement does
* `Node`, `Block` — trees of loops
* `Program`, `Draft` — the trees with instructions, and with items, at their leaves
-/

namespace TapeCompiler

/-- How an instruction combines the active cell with its operand. -/
inductive Operator where
  /-- Addition. -/
  | add
  /-- Multiplication. -/
  | mul
  /-- Division. -/
  | div
  /-- Remainder. -/
  | mod
deriving DecidableEq, Repr

namespace Operator

/-- The sign of an operator. -/
def symbol : Operator → Char
  | add => '+'
  | mul => '*'
  | div => '/'
  | mod => '%'

/-- The operator with a given sign. -/
def ofSymbol? : Text → Option Operator
  | ['+'] => some add
  | ['*'] => some mul
  | ['/'] => some div
  | ['%'] => some mod
  | _ => none

theorem ofSymbol?_symbol (o : Operator) : ofSymbol? [o.symbol] = some o := by
  cases o <;> rfl

end Operator

/-- A statement that is not a loop. -/
inductive Instruction where
  /-- Moves the pointer, forward for a positive offset. -/
  | move (offset : Int32)
  /-- Combines the active cell with an operand. -/
  | cell (op : Operator) (operand : Int32)
  /-- Writes the active cell to the output. -/
  | output
  /-- Reads a byte from the input into the active cell. -/
  | input
  /-- Stands for a text in the target language. -/
  | insert (text : Text)
deriving DecidableEq

/-- A statement: a leaf, or a loop that repeats its body while the active cell is not zero. -/
inductive Node (α : Type) where
  /-- A statement that is not a loop. -/
  | leaf (a : α)
  /-- A loop. -/
  | loop (body : List (Node α))

/-- A sequence of statements. -/
abbrev Block (α : Type) := List (Node α)

/-- A program: a sequence of statements with instructions at the leaves. -/
abbrev Program := Block Instruction

/-- A leaf of a draft. -/
inductive Item where
  /-- An instruction. -/
  | instr (i : Instruction)
  /-- A statement of a kind that is defined elsewhere. Nothing is known of it but a label; it has
  neither a spelling nor any code. -/
  | foreign (label : Nat)
deriving DecidableEq

/-- A program that may hold foreign statements. -/
abbrev Draft := Block Item

end TapeCompiler
