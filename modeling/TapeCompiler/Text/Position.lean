import TapeCompiler.Text.Basic

/-!
# Lines and columns

A place in a text can be given by its offset, or by a line and a column that both count from one.
Only a line feed ends a line. Offsets beyond the end of the text belong to its last line.
-/

namespace TapeCompiler

/-- A place in a text, told by line and column. -/
structure Position where
  /-- The number of the line, from one. -/
  line : Nat
  /-- The number of the column, from one. -/
  column : Nat
deriving DecidableEq, Repr

namespace Position

/-- The characters of a text behind its last line feed. -/
def lastLine (t : Text) : Text :=
  (t.reverse.takeWhile (· ≠ '\n')).reverse

/-- The place of an offset in a text. -/
def ofOffset (t : Text) (offset : Nat) : Position where
  line := (t.take offset).count '\n' + 1
  column := offset - ((t.take offset).length - (lastLine (t.take offset)).length) + 1

end Position

end TapeCompiler
