import TapeCompiler.Source.Parser

/-!
# Reading step by step

A reader holds a source and an offset, and can be moved by hand: over a gap, over an insert, or
through a whole source. Before it was given an offset, and before it was given a source, it can do
none of these but the last.

An offset may lie beyond the end of the source. It may also be negative, and then it counts from the
end: the character at `-1` is the last one. A reader that moves forward through negative offsets
comes to `0`, which is the beginning, and goes on from there.

## Main definitions

* `Reader` — a source and an offset, as far as given
* `Reader.Place` — a place in a source
* `Reader.skipGap`, `Reader.peek`, `Reader.insert`, `Reader.parse` — the moves
* `Reader.Step`, `Reader.Answer` — what a reader can be asked to do, and what it answers
* `Reader.step` — the reader after a step, with the answer
-/

namespace TapeCompiler

/-- A source and an offset, as far as given. -/
structure Reader where
  /-- The source. -/
  source : Option Text := none
  /-- The offset. -/
  offset : Option Int := none

namespace Reader

/-- A place in a source. -/
structure Place where
  /-- The source. -/
  source : Text
  /-- The offset, which counts from the end if it is negative. -/
  offset : Int

/-- Why a reader did not move. -/
inductive Fault where
  /-- It has no offset yet. -/
  | noOffset
  /-- It has no source yet. -/
  | noSource
  /-- It stands in front of the beginning of the source. -/
  | outOfRange
  /-- It stands so far in front of the beginning that the offset does not fit into a word. -/
  | outOfReach
  /-- The insert that was to be read at this place is not closed. -/
  | unterminated (place : Place)
  /-- The insert is not closed, and the line or the column of its place is too large to be
  reported. -/
  | unwritable

/-- The wording for a part that the reader does not have yet. -/
def missingMessage (name : Text) : Text :=
  "'Parser' object has no attribute '".toList ++ name ++ ['\'']

namespace Place

/-- The number of characters in front of a place; none, if it lies in front of the beginning. -/
def before (p : Place) : Nat :=
  if 0 ≤ p.offset then p.offset.toNat else (p.source.length + p.offset).toNat

/-- The cursor at a place. -/
def cursor (p : Place) : Cursor :=
  .ofOffset p.source p.before

/-- The line of a place. -/
def line (p : Place) : Nat :=
  (Position.ofOffset p.source p.before).line

/-- The column of a place, told from its offset as it is: the column of a negative offset is as far
below that of the same place as the offset is. -/
def column (p : Place) : Int :=
  (Position.ofOffset p.source p.before).column + (p.offset - p.before)

/-- The least offset that fits into a word of 64 bits. -/
def minOffset : Int := -9223372036854775808

/-- Whether there may be a character at a place: it must not lie in front of the beginning. -/
def check (p : Place) : Except Fault Unit :=
  if p.offset < minOffset then .error .outOfReach
  else if p.offset < -p.source.length then .error .outOfRange
  else .ok ()

/-- The offset behind the gap at a place before the end. What follows the place is given. -/
def skipTail (source : Text) : Text → Int
  -- The offset is zero now, which is no longer the end but the beginning.
  | [] => (Cursor.start source).skipGap.offset
  | x :: rest =>
    let offset : Int := -(rest.length + 1)
    if isBlank x then skipTail source rest
    else if x = '#' then
      -- Behind the last character the search starts at the beginning, for the same reason.
      let behind : Place := ⟨source, offset + 1⟩
      match Cursor.pastHash? behind.before behind.cursor.rest with
      | some c => c.skipGap.offset
      | none => offset
    else offset

/-- The offset behind the gap at a place. -/
def skipGap (p : Place) : Except Fault Int := do
  if 0 ≤ p.offset then return p.cursor.skipGap.offset
  p.check
  return skipTail p.source p.cursor.rest

/-- The character at a place, if the source has not ended before. -/
def peek (p : Place) : Except Fault (Option Char) := do
  p.check
  return p.cursor.rest.head?

/-- The text of the insert at a place, and the offset behind it. It is not looked at what the two
characters of the opening double colon are. -/
def insert (p : Place) : Except Fault (Text × Int) :=
  let inner : Place := { p with offset := p.offset + 2 }
  match Cursor.untilDoubleColon? [] inner.before inner.cursor.rest with
  | some (text, behind) => .ok (text, behind.offset)
  | none => .error (if isWritablePlace p.line p.column then .unterminated p else .unwritable)

end Place

/-- The wording for why a reader did not move. -/
def Fault.message : Fault → Text
  | noOffset => missingMessage "pos".toList
  | noSource => missingMessage "source".toList
  | outOfRange => "string index out of range".toList
  | outOfReach => "cannot fit 'int' into an index-sized integer".toList
  | unterminated place =>
    Reason.unterminatedInsert.messageAt place.line place.column place.cursor.rest
  | unwritable => Numeral.tooLargeMessage

/-- Gives the reader a source, and goes to its beginning. -/
def load (source : Text) : Reader where
  source := source
  offset := some 0

/-- Goes to an offset. -/
def seek (offset : Int) (r : Reader) : Reader :=
  { r with offset }

/-- The place of a reader. -/
def place (r : Reader) : Except Fault Place :=
  match r.offset, r.source with
  | none, _ => .error .noOffset
  | some _, none => .error .noSource
  | some offset, some source => .ok ⟨source, offset⟩

/-- Moves over a gap. -/
def skipGap (r : Reader) : Except Fault Reader := do
  let offset ← (← r.place).skipGap
  return r.seek offset

/-- The character at the place, if the source has not ended before. -/
def peek (r : Reader) : Except Fault (Option Char) := do
  (← r.place).peek

/-- Moves over an insert, and gives its text. -/
def insert (r : Reader) : Except Fault (Text × Reader) := do
  let (inner, offset) ← (← r.place).insert
  return (inner, r.seek offset)

/-- Reads a whole source, and stays where the reading stopped. -/
def parse (source : Text) : Reader × Except SyntaxError Program :=
  let result := Reading.ofSource source
  ((load source).seek result.stop.offset,
    result.outcome.mapError fun fault => { fault with source })

/-- What a reader can be asked to do. -/
inductive Step where
  /-- To take a source, and to go to its beginning. -/
  | load (source : Text)
  /-- To go to an offset. -/
  | seek (offset : Int)
  /-- To move over a gap. -/
  | skipGap
  /-- To tell the character at its place. -/
  | peek
  /-- To move over an insert. -/
  | insert
  /-- To read a whole source. -/
  | parse (source : Text)

/-- What a reader answers. -/
inductive Answer where
  /-- Nothing but that it did what it was asked. -/
  | done
  /-- The character at its place, if the source has not ended before. -/
  | char (c : Option Char)
  /-- The text of the insert over which it has moved. -/
  | inserted (t : Text)
  /-- The program that was read. -/
  | program (p : Program)
  /-- Why the source that was read is no program. -/
  | syntaxError (e : SyntaxError)
  /-- Why it did not move. -/
  | fault (f : Fault)

/-- The reader after a step, with the answer. A reader that cannot move stays as it is. -/
def step (r : Reader) : Step → Reader × Answer
  | .load source => (load source, .done)
  | .seek offset => (r.seek offset, .done)
  | .skipGap =>
    match r.skipGap with
    | .ok next => (next, .done)
    | .error fault => (r, .fault fault)
  | .peek =>
    match r.peek with
    | .ok c => (r, .char c)
    | .error fault => (r, .fault fault)
  | .insert =>
    match r.insert with
    | .ok (inner, next) => (next, .inserted inner)
    | .error fault => (r, .fault fault)
  | .parse source =>
    match parse source with
    | (next, .ok program) => (next, .program program)
    | (next, .error e) => (next, .syntaxError e)

end Reader

end TapeCompiler
