import TapeCompiler.Program.Traversal

/-!
# Depth

Describing a program and comparing two of them goes into loops within loops, and that only to a
certain depth. A comparison goes through both programs side by side and ends at the first
difference, so that only what they have in common up to there counts.

## Main definitions

* `Block.depth` — the greatest number of loops within each other
* `Block.sharedDepth` — the same for the beginning that two blocks share
* `Depth.check`, `Depth.Fault.message` — whether a depth can be reached, and the wording if not
* `Block.compare` — whether two blocks are the same tree, if that can be told
-/

namespace TapeCompiler

namespace Depth

/-- Why loops within loops were not gone into. -/
inductive Fault where
  /-- They are too deep to be described. -/
  | describing
  /-- They are too deep to be compared. -/
  | comparing
deriving DecidableEq, Repr

/-- The wording of a fault. -/
def Fault.message : Fault → Text
  | describing => "maximum recursion depth exceeded while getting the repr of an object".toList
  | comparing => "maximum recursion depth exceeded in comparison".toList

/-- The greatest depth to which a whole program is described. -/
def maxProgram : Nat := 247

/-- The greatest depth to which a statement is described. -/
def maxStatement : Nat := 248

/-- The greatest depth to which programs are compared. -/
def maxComparison : Nat := 248

/-- Whether a depth can be reached. -/
def check (fault : Fault) (greatest depth : Nat) : Except Fault Unit :=
  if depth ≤ greatest then .ok () else .error fault

end Depth

variable {α : Type}

/-- The greatest depth among tokens, if they begin at a certain depth, and the greatest depth in
front of them is given. -/
def Token.deepest (depth greatest : Nat) : List (Token α) → Nat
  | [] => greatest
  | .leaf _ :: rest => deepest depth greatest rest
  | .opening :: rest => deepest (depth + 1) (max greatest (depth + 1)) rest
  | .closing :: rest => deepest (depth - 1) greatest rest

/-- The beginning that two rows of tokens share. -/
def Token.shared [DecidableEq α] : List (Token α) → List (Token α) → List (Token α)
  | a :: as, b :: bs => if a = b then a :: shared as bs else []
  | _, _ => []

namespace Block

/-- The greatest number of loops within each other. -/
def depth (block : Block α) : Nat :=
  Token.deepest 0 0 block.tokens

/-- The greatest number of loops within each other in the beginning that two blocks share. -/
def sharedDepth [DecidableEq α] (block other : Block α) : Nat :=
  Token.deepest 0 0 (Token.shared block.tokens other.tokens)

/-- Whether two blocks are the same tree, if that can be told. -/
def compare [DecidableEq α] (block other : Block α) : Except Depth.Fault Bool :=
  (Depth.check .comparing Depth.maxComparison (block.sharedDepth other)).map fun _ =>
    block.same other

end Block

end TapeCompiler
