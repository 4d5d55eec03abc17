import TapeCompiler.Program.Traversal

/-!
# Putting a program together

A program is put together in the order of its text. While some of its loops are still open, the
statements read so far are kept block by block: those of the innermost open loop, and behind every
bracket that is still open those that stand before it.

## Main definitions

* `Assembly` — a program under construction
* `Assembly.add`, `Assembly.enter`, `Assembly.leave?` — take in a leaf, an opening and a closing
  bracket
* `Assembly.finish` — the program, unless a loop is still open
* `Block.ofTokens?` — the block with a given flat form
* `Draft.program?` — a draft without foreign statements as a program
-/

namespace TapeCompiler

/-- An open bracket with the statements of the block in which it stands, the latest first. -/
structure Frame (ι α : Type) where
  /-- What is known of the bracket. -/
  bracket : ι
  /-- The statements before the bracket, the latest first. -/
  before : List (Node α)

/-- A program under construction. -/
structure Assembly (ι α : Type) where
  /-- The statements of the innermost open block, the latest first. -/
  block : List (Node α) := []
  /-- The brackets that are still open, the innermost first. -/
  frames : List (Frame ι α) := []

namespace Assembly

variable {ι α : Type}

/-- Takes in a statement that is complete. -/
def addNode (node : Node α) (a : Assembly ι α) : Assembly ι α :=
  { a with block := node :: a.block }

/-- Takes in a leaf. -/
def add (leaf : α) (a : Assembly ι α) : Assembly ι α :=
  a.addNode (.leaf leaf)

/-- Takes in an opening bracket. -/
def enter (bracket : ι) (a : Assembly ι α) : Assembly ι α where
  block := []
  frames := ⟨bracket, a.block⟩ :: a.frames

/-- Takes in a closing bracket, if a bracket is open. -/
def leave? (a : Assembly ι α) : Option (Assembly ι α) :=
  match a.frames with
  | [] => none
  | frame :: frames =>
    some { block := .loop a.block.reverse :: frame.before, frames }

/-- The program that was put together, or the outermost bracket that is still open. -/
def finish (a : Assembly ι α) : Except ι (Block α) :=
  match a.frames.getLast? with
  | none => .ok a.block.reverse
  | some frame => .error frame.bracket

/-- Takes in a token. -/
def token? (a : Assembly Unit α) : Token α → Option (Assembly Unit α)
  | .leaf leaf => some (a.add leaf)
  | .opening => some (a.enter ())
  | .closing => a.leave?

end Assembly

/-- The block with a given flat form, if the brackets match. -/
def Block.ofTokens? {α : Type} (tokens : List (Token α)) : Option (Block α) :=
  (tokens.foldlM (fun (a : Assembly Unit α) t => a.token? t) {}).bind fun a => a.finish.toOption

/-- The token of a program that stands for a token of a draft, unless that is foreign. -/
def Token.known? : Token Item → Option (Token Instruction)
  | .leaf (.instr i) => some (.leaf i)
  | .leaf (.foreign _) => none
  | .opening => some .opening
  | .closing => some .closing

/-- A draft as a program, if it holds no foreign statement. -/
def Draft.program? (draft : Draft) : Option Program :=
  (draft.tokens.mapM Token.known?).bind Block.ofTokens?

end TapeCompiler
