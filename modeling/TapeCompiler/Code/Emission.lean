import TapeCompiler.Code.Indentation
import TapeCompiler.Program.Traversal

/-!
# Writing out programs line by line

A backend says which lines a leaf and the two ends of a loop become. Emission walks through a
program, asks the backend for the lines, and indents them by the depth of the loop in which they
stand; an empty line stays empty. The depth may start at any integer.

The backend may refuse, and the indentation may fail. Emission then stops, and keeps what was
written before.

## Main definitions

* `Backend` — how the parts of a program are translated
* `Lines` — the lines written so far, and the depth
* `Backend.emitBlock` — writes out a block
-/

namespace TapeCompiler

/-- How the parts of a program with leaves of type `α` become lines of code. Each part can be
refused with a fault of type `ε`. -/
structure Backend (α ε : Type) where
  /-- The extension of the files that hold such code. -/
  extension : Text
  /-- How lines are indented. -/
  indentation : Indentation ε
  /-- Whether the number of all cells is written. -/
  writesCells : Bool
  /-- The depth of the statements outside all loops. -/
  bodyDepth : Int
  /-- The lines before the program, for the two sizes of the tape. -/
  opening : Nat → Nat → Except ε (List Text)
  /-- The lines behind the program. -/
  ending : Except ε (List Text)
  /-- The lines of a leaf. -/
  leaf : α → Except ε (List Text)
  /-- The lines at the beginning of a loop. -/
  loopOpening : Except ε (List Text)
  /-- The lines at the end of a loop. -/
  loopEnding : Except ε (List Text)

/-- The lines written so far, and the depth of what is written next. -/
structure Lines where
  /-- The lines, from the first on. -/
  written : Array Text := #[]
  /-- The depth. -/
  depth : Int := 0

namespace Lines

/-- A line behind a margin. An empty line has none. -/
def indented (margin line : Text) : Text :=
  if line = [] then [] else margin ++ line

/-- Writes lines behind a margin. -/
def write (margin : Text) (lines : List Text) (s : Lines) : Lines :=
  { s with written := s.written ++ lines.map (indented margin) }

/-- Goes deeper by `n` levels. -/
def deepen (n : Int) (s : Lines) : Lines :=
  { s with depth := s.depth + n }

end Lines

namespace Backend

variable {α ε : Type}

/-- Writes lines at the current depth, unless they are refused or there is no margin for them. If
the margin is missing for lines that are not empty, the empty lines before them are written. -/
def writeAll (b : Backend α ε) (lines : Except ε (List Text)) (s : Lines) :
    Lines × Except ε Unit :=
  match lines with
  | .error e => (s, .error e)
  | .ok lines =>
    -- The margin is asked for even if there are no lines to put it in front of.
    match b.indentation.margin s.depth with
    | .error e => (s, .error e)
    | .ok (.ok margin) => (s.write margin lines, .ok ())
    | .ok (.error e) =>
      (s.write [] (lines.takeWhile (· = [])), if lines.all (· = []) then .ok () else .error e)

/-- Writes out one step of the walk through a program. -/
def emitVisit (b : Backend α ε) (s : Lines) : Visit α → Lines × Except ε Unit
  | .leaf a => b.writeAll (b.leaf a) s
  | .enter _ =>
    match b.writeAll b.loopOpening s with
    | (s, .ok ()) => (s.deepen 1, .ok ())
    | refused => refused
  | .leave => b.writeAll b.loopEnding (s.deepen (-1))

/-- Writes out the steps of a walk, up to the first that is refused. -/
def emitVisits (b : Backend α ε) (s : Lines) : List (Visit α) → Lines × Except ε Unit
  | [] => (s, .ok ())
  | v :: rest =>
    match b.emitVisit s v with
    | (s, .ok ()) => b.emitVisits s rest
    | refused => refused

/-- Writes out a block. -/
def emitBlock (b : Backend α ε) (block : Block α) (s : Lines) : Lines × Except ε Unit :=
  b.emitVisits s block.visits

end Backend

end TapeCompiler
