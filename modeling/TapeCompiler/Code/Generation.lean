import TapeCompiler.Code.Emission
import TapeCompiler.Code.Tape

/-!
# Generating code

The code of a program is what the backend puts in front of it, the program itself, and what the
backend puts behind it. The sizes of the tape are checked first, and then, if it is written, their
sum. The first size and the indentation are written in front of the sum, so that a failure there is
reported first.

## Main definitions

* `Code` — lines of code, with the extension of their file
* `Backend.code` — the code of a program for a tape with two sizes
* `Backend.generate` — the same for sizes that were not checked yet
* `Backend.items` — a backend for drafts
-/

namespace TapeCompiler

/-- Lines of code in some target language. -/
structure Code where
  /-- The lines, from the first on. -/
  lines : List Text
  /-- The extension of a file that holds the code. -/
  extension : Text
deriving DecidableEq

/-- Code as a text: every line ends in a line break. -/
def Code.text (c : Code) : Text :=
  Text.joinLines c.lines ++ ['\n']

/-- Why no code was generated. -/
inductive Generation.Fault (ε : Type) where
  /-- A size of the tape is no size. -/
  | tape (fault : Tape.Fault)
  /-- The backend refused a part of the program, or its indentation. -/
  | refused (fault : ε)

/-- Why a backend refused an item. -/
inductive Item.Fault (ε : Type) where
  /-- The statement is foreign. -/
  | foreign (label : Nat)
  /-- The backend refused the instruction, another part of the program, or the indentation. -/
  | refused (fault : ε)

namespace Backend

variable {α ε : Type}

/-- The code of a program for a tape with two given sizes. -/
def code (b : Backend α ε) (program : Block α) (pre post : Nat) : Except ε Code := do
  let opening ← b.opening pre post
  let (s, outcome) := b.emitBlock program ⟨opening.toArray, b.bodyDepth⟩
  outcome
  let ending ← b.ending
  return ⟨s.written.toList ++ ending, b.extension⟩

/-- The code of a program from a backend that refuses nothing. -/
def sureCode (b : Backend α Empty) (program : Block α) (pre post : Nat) : Code :=
  match b.code program pre post with
  | .ok code => code

/-- Why no code is generated if the number of all cells cannot be written, for the number of cells
before the initial place of the pointer. -/
def unwritable (b : Backend α ε) (pre : Nat) : Generation.Fault ε :=
  match b.indentation.level with
  | .ok _ => .tape .unwritable
  | .error fault => if Tape.isWritable pre then .refused fault else .tape .unwritable

/-- The code of a program for two sizes of the tape that were not checked yet. -/
def generate (b : Backend α ε) (program : Block α) (pre post : Json) :
    Except (Generation.Fault ε) Code := do
  let pre ← (Tape.pre pre).mapError .tape
  let post ← (Tape.post post).mapError .tape
  -- Both sizes are in order, but their sum can have one digit more than each of them.
  if b.writesCells && !Tape.isWritable (pre + post) then throw (b.unwritable pre)
  (b.code program pre post).mapError .refused

/-- The backend for drafts that goes with a backend for programs. It refuses foreign statements. -/
def items (b : Backend Instruction ε) : Backend Item (Item.Fault ε) where
  extension := b.extension
  indentation := b.indentation.mapFault .refused
  writesCells := b.writesCells
  bodyDepth := b.bodyDepth
  opening pre post := (b.opening pre post).mapError .refused
  ending := b.ending.mapError .refused
  leaf
    | .instr i => (b.leaf i).mapError .refused
    | .foreign label => .error (.foreign label)
  loopOpening := b.loopOpening.mapError .refused
  loopEnding := b.loopEnding.mapError .refused

end Backend

end TapeCompiler
