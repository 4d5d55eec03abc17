import TapeCompiler.Program.Depth
import TapeCompiler.Text.Numeral
import TapeCompiler.Text.Quoted

/-!
# Describing programs

For messages and for inspection, a statement is described by its kind with its parts by name, and
a sequence in parentheses, a single element with a comma behind it. A foreign statement has no
description, and neither has anything around it. Descriptions are only given to a certain depth.

## Main definitions

* `Item.description?`, `Node.description?`, `Draft.description?` — the descriptions
* `Draft.describe`, `Node.describeUnhandled` — what is said of a program, and of a statement that
  cannot be handled
-/

namespace TapeCompiler

/-- The name of an operator. -/
def Operator.name : Operator → Text
  | add => "ADD".toList
  | mul => "MUL".toList
  | div => "DIV".toList
  | mod => "MOD".toList

/-- The description of an instruction. -/
def Instruction.description : Instruction → Text
  | move offset => "PointerMove(offset=".toList ++ Numeral.ofInt offset.toInt ++ [')']
  | cell op operand =>
    "CellOp(op=<Op.".toList ++ op.name ++ ": '".toList ++ [op.symbol] ++ "'>, operand=".toList
      ++ Numeral.ofInt operand.toInt ++ [')']
  | output => "Output()".toList
  | input => "Input()".toList
  | insert text => "RawInsert(text=".toList ++ Quoted.ofText text ++ [')']

/-- The description of an item. -/
def Item.description? : Item → Option Text
  | instr i => some i.description
  | foreign _ => none

/-- A sequence of descriptions in parentheses. -/
def inParentheses : List Text → Text
  | [single] => '(' :: single ++ [',', ')']
  | parts => '(' :: Text.join ", ".toList parts ++ [')']

mutual

/-- The description of a statement. -/
def Node.description? : Node Item → Option Text
  | .leaf a => a.description?
  | .loop body => do
    let parts ← descriptions? body
    return "Loop(body=".toList ++ inParentheses parts ++ [')']

/-- The descriptions of the statements of a sequence. -/
def descriptions? : List (Node Item) → Option (List Text)
  | [] => some []
  | node :: rest => do
    let part ← node.description?
    let parts ← descriptions? rest
    return part :: parts

end

/-- The wording for a statement that cannot be handled where it stands, if it has a description and
is not too deep. -/
def Node.describeUnhandled (node : Node Item) : Except Depth.Fault (Option Text) :=
  (Depth.check .describing Depth.maxStatement (Block.depth [node])).map fun _ =>
    node.description?.map fun description => "Unhandled statement type: ".toList ++ description

/-- The description of a whole program. -/
def Draft.description? (draft : Draft) : Option Text := do
  let parts ← descriptions? draft
  return "Program(statements=".toList ++ inParentheses parts ++ [')']

/-- The description of a whole program, if it has one and is not too deep. -/
def Draft.describe (draft : Draft) : Except Depth.Fault (Option Text) :=
  (Depth.check .describing Depth.maxProgram draft.depth).map fun _ => draft.description?

end TapeCompiler
