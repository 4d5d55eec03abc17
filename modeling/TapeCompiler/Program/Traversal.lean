import TapeCompiler.Program.Basic

/-!
# Walking through a program

A program is walked in the order of its text: a loop is entered, its body is walked, and the loop
is left again. The walk keeps the blocks that are still to be finished on a stack of its own, so
the nesting of loops is bounded by memory alone. Printing, comparing and translating a program all
read it through this walk.

## Main definitions

* `Block.visits` — the steps of the walk
* `Block.statements` — the statements met on the walk, each loop in front of its body
* `Block.tokens` — the walk as a flat sequence of leaves and brackets
-/

namespace TapeCompiler

variable {α β : Type}

/-- A step of the walk through a program. -/
inductive Visit (α : Type) where
  /-- Meets a leaf. -/
  | leaf (a : α)
  /-- Enters a loop with this body. -/
  | enter (body : Block α)
  /-- Leaves the innermost loop. -/
  | leave

/-- A leaf or one of the two brackets of a loop. -/
inductive Token (α : Type) where
  /-- A leaf. -/
  | leaf (a : α)
  /-- The opening bracket of a loop. -/
  | opening
  /-- The closing bracket of a loop. -/
  | closing
deriving DecidableEq

namespace Visit

/-- The statement that a step meets first. -/
def statement? : Visit α → Option (Node α)
  | leaf a => some (.leaf a)
  | enter body => some (.loop body)
  | leave => none

/-- The token that stands for a step. -/
def token : Visit α → Token α
  | leaf a => .leaf a
  | enter _ => .opening
  | leave => .closing

end Visit

namespace Block

/-- Walks through the rest of a block and then through the rests of the blocks around it, from the
innermost on, behind the steps that are already done. -/
def walk (done : Array (Visit α)) (block : Block α) (outer : List (Block α)) : Array (Visit α) :=
  match block, outer with
  | [], [] => done
  | [], block :: outer => walk (done.push .leave) block outer
  | .leaf a :: rest, outer => walk (done.push (.leaf a)) rest outer
  | .loop body :: rest, outer => walk (done.push (.enter body)) body (rest :: outer)
termination_by sizeOf block + sizeOf outer

/-- The steps of the walk through a block. -/
def visits (block : Block α) : List (Visit α) :=
  (walk #[] block []).toList

/-- The statements of a block at every depth, in the order of the text. -/
def statements (block : Block α) : List (Node α) :=
  block.visits.filterMap Visit.statement?

/-- A block as a flat sequence of leaves and brackets. -/
def tokens (block : Block α) : List (Token α) :=
  block.visits.map Visit.token

/-- Whether two blocks are the same tree. -/
def same [DecidableEq α] (block other : Block α) : Bool :=
  block.tokens = other.tokens

end Block

end TapeCompiler
