import TapeCompiler.Code.Target
import TapeCompiler.Files.Path

/-!
# Notes on progress

On request the command line writes notes on what it does, one on a line, each with the name of the
part that takes it.

## Main definitions

* `Note` — a note
* `Note.line` — the line of a note
-/

namespace TapeCompiler

/-- A note on progress. -/
inductive Note where
  /-- A source was read: the number of its statements outside all loops, and of its characters. -/
  | parsed (statements characters : Nat)
  /-- A program is going to be compiled for a tape with two sizes. -/
  | compiling (target : Target) (pre post : Nat)
  /-- Code was generated: the number of its lines, and the number of cells. -/
  | generated (target : Target) (lines cells : Nat)
  /-- A source is no program, as is seen at this offset. -/
  | rejected (offset : Nat)
  /-- A file was written. -/
  | wrote (path : Path)

/-- The title of a target language in notes. -/
def Target.title : Target → Text
  | c99 => "C99Generator".toList

namespace Note

/-- The part that takes a note; `main` is the name of the command line itself. -/
def part (main : Text) : Note → Text
  | parsed _ _ => "bfc.parser".toList
  | compiling _ _ _ => "bfc.compiler".toList
  | generated _ _ _ => "bfc.backends.base".toList
  | rejected _ => main
  | wrote _ => main

/-- The wording of a note. -/
def message : Note → Text
  | parsed statements characters =>
    "Parsed ".toList ++ Numeral.ofNat statements ++ " top-level statements from ".toList
      ++ Numeral.ofNat characters ++ " characters".toList
  | compiling target pre post =>
    "Compiling for ".toList ++ target.name ++ " with pre=".toList ++ Numeral.ofNat pre
      ++ " post=".toList ++ Numeral.ofNat post
  | generated target lines cells =>
    "Generated ".toList ++ Numeral.ofNat lines ++ " lines of ".toList ++ target.title
      ++ " for a ".toList ++ Numeral.ofNat cells ++ " cell tape".toList
  | rejected offset => "Parse failed at offset ".toList ++ Numeral.ofNat offset
  | wrote path => "Wrote ".toList ++ path.text

/-- The line of a note. -/
def line (main : Text) (n : Note) : Text :=
  "DEBUG ".toList ++ n.part main ++ ": ".toList ++ n.message ++ ['\n']

end Note

end TapeCompiler
