import TapeCompiler.Text.Numeral
import TapeCompiler.Text.Position
import TapeCompiler.Text.Quoted

/-!
# Syntax errors

A source that is no program is rejected with a reason and the offset of the place to which the
reason applies.

The wording of the error tells the place by line and column, and has to be made together with the
error. So there is no error for a place whose line or column is too large to be written. Such a
place lies beyond the end of all sources there are.

## Main definitions

* `Reason`, `Fault` — what is wrong, and where
* `SyntaxError` — a fault of a certain source, from which line, column, remaining text and message
  follow
* `SyntaxError.ofFault?` — the error for a fault of a source, if its place can be written
-/

namespace TapeCompiler

/-- Why a source is no program. -/
inductive Reason where
  /-- A closing bracket without an opening one. -/
  | unmatchedClose
  /-- A loop that is not closed. -/
  | unterminatedLoop
  /-- An insert that is not closed. -/
  | unterminatedInsert
  /-- A comment that is not closed. -/
  | unterminatedComment
  /-- A character that stands for nothing. -/
  | unexpected (c : Char)
deriving DecidableEq, Repr

/-- The wording of a reason. -/
def Reason.message : Reason → Text
  | unmatchedClose => "Unexpected ']' without matching '['".toList
  | unterminatedLoop => "Unterminated loop, missing ']'".toList
  | unterminatedInsert => "Unterminated raw insert, missing '::'".toList
  | unterminatedComment => "Unterminated comment".toList
  | unexpected c => "Unexpected character ".toList ++ Quoted.ofText [c]

/-- The beginning of a text: all of it, or its first twenty characters and three dots. -/
def preview (t : Text) : Text :=
  if t.length ≤ 20 then t else t.take 20 ++ ['.', '.', '.']

/-- The wording of a reason with a line and a column, and with the text that was not consumed. -/
def Reason.messageAt (line column : Int) (remaining : Text) (r : Reason) : Text :=
  r.message ++ " at line ".toList ++ Numeral.ofInt line ++ ", column ".toList
    ++ Numeral.ofInt column ++ ": ".toList ++ Quoted.ofText (preview remaining)

/-- Whether a line and a column can be written. -/
def isWritablePlace (line column : Int) : Bool :=
  line.natAbs < Numeral.tooLarge ∧ column.natAbs < Numeral.tooLarge

/-- What is wrong, and at which offset. -/
structure Fault where
  /-- What is wrong. -/
  reason : Reason
  /-- The offset of the place. -/
  offset : Nat
deriving DecidableEq, Repr

/-- A fault of a source. -/
structure SyntaxError extends Fault where
  /-- The source. -/
  source : Text
deriving DecidableEq, Repr

namespace SyntaxError

/-- The part of the source that was not consumed. -/
def remaining (e : SyntaxError) : Text :=
  e.source.drop e.offset

/-- The line and the column of the place. -/
def position (e : SyntaxError) : Position :=
  .ofOffset e.source e.offset

/-- The wording of a syntax error. -/
def message (e : SyntaxError) : Text :=
  e.reason.messageAt e.position.line e.position.column e.remaining

/-- The syntax error for a fault of a source, if the line and the column of the place can be
written. -/
def ofFault? (source : Text) (fault : Fault) : Option SyntaxError :=
  let e : SyntaxError := { fault with source }
  if isWritablePlace e.position.line e.position.column then some e else none

end SyntaxError

end TapeCompiler
