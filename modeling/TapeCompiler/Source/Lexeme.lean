import TapeCompiler.Program.Traversal
import TapeCompiler.Source.SyntaxError
import TapeCompiler.Text.Cursor

/-!
# Lexemes and gaps

A source is a row of lexemes with gaps between them. A lexeme is one of the characters
`> < + - , . [ ]`, or an insert: any text between two double colons, up to the first double colon
behind the opening one. A gap is made of blanks and of comments from one `#` to the next.

## Main definitions

* `Cursor.skipGap` — moves behind the gap at a cursor
* `Cursor.insert?` — reads the insert at a cursor
* `Cursor.lexeme` — reads the lexeme at a cursor
-/

namespace TapeCompiler

/-- Whether a character is a blank of a source. -/
def isBlank (c : Char) : Bool :=
  c = ' ' || c = '\t' || c = '\r' || c = '\n'

/-- The instruction that is written as a single character. -/
def Instruction.ofChar? : Char → Option Instruction
  | '>' => some (.move 1)
  | '<' => some (.move (-1))
  | '+' => some (.cell .add 1)
  | '-' => some (.cell .add (-1))
  | ',' => some .input
  | '.' => some .output
  | _ => none

namespace Cursor

/-- The cursor behind the first `#` of a text that starts at `offset`. -/
def pastHash? (offset : Nat) : Text → Option Cursor
  | [] => none
  | c :: rest => if c = '#' then some ⟨offset + 1, rest⟩ else pastHash? (offset + 1) rest

theorem length_rest_lt_of_pastHash? {offset : Nat} {t : Text} {c : Cursor}
    (h : pastHash? offset t = some c) : c.rest.length < t.length := by
  induction t generalizing offset with
  | nil => simp [pastHash?] at h
  | cons x rest ih =>
    simp only [pastHash?] at h
    split at h
    · cases h; exact Nat.lt_succ_self _
    · exact Nat.lt_succ_of_lt (ih h)

/-- The cursor behind the gap at a cursor. A comment that is not closed is not part of a gap. -/
def skipGap (c : Cursor) : Cursor :=
  match c with
  | ⟨offset, []⟩ => ⟨offset, []⟩
  | ⟨offset, x :: rest⟩ =>
    if isBlank x then skipGap ⟨offset + 1, rest⟩
    else if x = '#' then
      match _ : pastHash? (offset + 1) rest with
      | some behind => skipGap behind
      | none => ⟨offset, x :: rest⟩
    else ⟨offset, x :: rest⟩
termination_by c.rest.length
decreasing_by
  · exact Nat.lt_succ_self _
  · exact Nat.lt_succ_of_lt (length_rest_lt_of_pastHash? ‹_›)

theorem length_rest_skipGap_le (c : Cursor) : c.skipGap.rest.length ≤ c.rest.length := by
  fun_induction skipGap c with
  | case1 => exact Nat.le_refl _
  | case2 offset x rest _ ih => exact Nat.le_succ_of_le ih
  | case3 offset rest behind h _ ih =>
    exact Nat.le_succ_of_le (Nat.le_trans ih (Nat.le_of_lt (length_rest_lt_of_pastHash? h)))
  | case4 => exact Nat.le_refl _
  | case5 => exact Nat.le_refl _

/-- Searches for a double colon in a text that starts at `offset`. Gives the text in front of it,
behind the characters in `before`, which stand in reverse, and the cursor behind it. -/
def untilDoubleColon? (before : Text) (offset : Nat) : Text → Option (Text × Cursor)
  | [] => none
  | c :: rest =>
    match c, rest with
    | ':', ':' :: rest => some (before.reverse, ⟨offset + 2, rest⟩)
    | _, _ => untilDoubleColon? (c :: before) (offset + 1) rest

/-- Reads the insert at a cursor: passes over the two characters of its opening double colon and
goes on to the first double colon. Gives the text of the insert and the cursor behind it. -/
def insert? (c : Cursor) : Option (Text × Cursor) :=
  untilDoubleColon? [] (c.offset + 2) (c.rest.drop 2)

theorem length_rest_lt_of_untilDoubleColon? {before : Text} {offset : Nat} {t inner : Text}
    {c : Cursor} (h : untilDoubleColon? before offset t = some (inner, c)) :
    c.rest.length < t.length := by
  induction t generalizing before offset with
  | nil => simp [untilDoubleColon?] at h
  | cons x rest ih =>
    unfold untilDoubleColon? at h
    split at h
    · cases h
      simp only [List.length_cons]
      omega
    · exact Nat.lt_succ_of_lt (ih h)

theorem length_rest_lt_of_insert? {c behind : Cursor} {inner : Text}
    (h : c.insert? = some (inner, behind)) : behind.rest.length < c.rest.length := by
  have := length_rest_lt_of_untilDoubleColon? h
  simp only [List.length_drop] at this
  omega

/-- What stands at a cursor. -/
inductive Lexeme where
  /-- Nothing: the source is at its end. -/
  | none
  /-- A lexeme, and the cursor behind it. -/
  | token (t : Token Instruction) (behind : Cursor)
  /-- No lexeme, for this reason. -/
  | fault (reason : Reason)

/-- The lexeme at a cursor that does not stand in front of a gap. -/
def lexeme (c : Cursor) : Lexeme :=
  match c.rest with
  | [] => .none
  | x :: rest =>
    match Instruction.ofChar? x with
    | some i => .token (.leaf i) (c.advance 1)
    | none =>
      if x = ':' ∧ rest.head? = some ':' then
        match c.insert? with
        | some (inner, behind) => .token (.leaf (.insert inner)) behind
        | none => .fault .unterminatedInsert
      else if x = '[' then .token .opening (c.advance 1)
      else if x = ']' then .token .closing (c.advance 1)
      else if x = '#' then .fault .unterminatedComment
      else .fault (.unexpected x)

theorem length_rest_lt_of_lexeme {c behind : Cursor} {t : Token Instruction}
    (h : c.lexeme = .token t behind) : behind.rest.length < c.rest.length := by
  unfold lexeme at h
  split at h
  · cases h
  · rename_i x rest hrest
    split at h
    · cases h; simp [hrest]
    · split at h
      · split at h
        · rename_i inner after hinsert
          cases h
          exact length_rest_lt_of_insert? hinsert
        · cases h
      · split at h
        · cases h; simp [hrest]
        · split at h
          · cases h; simp [hrest]
          · split at h <;> cases h

end Cursor

end TapeCompiler
