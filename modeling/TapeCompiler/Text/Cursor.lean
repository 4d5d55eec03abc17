import TapeCompiler.Text.Basic

/-!
# Cursors

A cursor is a place in a text: the offset, and the characters from there on. Readers move a cursor
forward.

## Main definitions

* `Cursor.ofOffset` — the cursor at an offset, which may lie beyond the end
* `Cursor.advance` — moves a cursor forward
* `Cursor.skipWhile` — moves a cursor past the characters with a property
-/

namespace TapeCompiler

/-- An offset into a text, and what follows there. -/
structure Cursor where
  /-- The number of characters before the cursor. -/
  offset : Nat
  /-- The characters behind the cursor. -/
  rest : Text
deriving DecidableEq, Repr

namespace Cursor

/-- The cursor at an offset of a text. -/
def ofOffset (t : Text) (offset : Nat) : Cursor :=
  ⟨offset, t.drop offset⟩

/-- The cursor in front of a text. -/
def start (t : Text) : Cursor :=
  ⟨0, t⟩

/-- Moves a cursor forward by `n` characters. -/
def advance (n : Nat) (c : Cursor) : Cursor :=
  ⟨c.offset + n, c.rest.drop n⟩

/-- Moves a cursor past all characters that satisfy `p`, up to the first that does not. -/
def skipWhile (p : Char → Bool) (c : Cursor) : Cursor :=
  go c.offset c.rest
where
  /-- The cursor behind the characters of the text that satisfy `p`. -/
  go (offset : Nat) : Text → Cursor
    | [] => ⟨offset, []⟩
    | x :: rest => if p x then go (offset + 1) rest else ⟨offset, x :: rest⟩

@[simp] theorem rest_ofOffset (t : Text) (n : Nat) : (ofOffset t n).rest = t.drop n := rfl

@[simp] theorem offset_ofOffset (t : Text) (n : Nat) : (ofOffset t n).offset = n := rfl

@[simp] theorem rest_advance (n : Nat) (c : Cursor) : (c.advance n).rest = c.rest.drop n := rfl

@[simp] theorem offset_advance (n : Nat) (c : Cursor) : (c.advance n).offset = c.offset + n := rfl

@[simp] theorem advance_ofOffset (t : Text) (m n : Nat) :
    (ofOffset t m).advance n = ofOffset t (m + n) := by
  simp [ofOffset, advance, List.drop_drop]

theorem length_rest_skipWhile_le (p : Char → Bool) (c : Cursor) :
    (c.skipWhile p).rest.length ≤ c.rest.length := by
  obtain ⟨offset, rest⟩ := c
  simp only [skipWhile]
  induction rest generalizing offset with
  | nil => simp [skipWhile.go]
  | cons x rest ih =>
    simp only [skipWhile.go, List.length_cons]
    split
    · exact Nat.le_succ_of_le (ih _)
    · exact Nat.le_refl _

end Cursor

end TapeCompiler
