import TapeCompiler.Code.Emission
import TapeCompiler.Text.Numeral

/-!
# Code in C

A program becomes a C99 file with a single function. The tape is an array of bytes that are zero at
the start, and a pointer into it starts behind the cells before the initial place. Every statement
outside the loops stands one level deep.

An insert keeps its lines, between two comments.

## Main definitions

* `C.statement` — the lines of an instruction
* `C.backend` — the lines of all parts of a program
-/

namespace TapeCompiler.C

/-- The comment before the lines of an insert. -/
def insertStart : Text :=
  "/* Start of inserted section */".toList

/-- The comment behind the lines of an insert. -/
def insertEnd : Text :=
  "/* End of inserted section */".toList

/-- The line that moves the pointer. A backward move subtracts the size of the offset, which for
the least offset is one more than the greatest. -/
def move (offset : Int32) : Text :=
  if 0 < offset then "ptr += ".toList ++ Numeral.ofInt offset.toInt ++ [';']
  else if offset < 0 then "ptr -= ".toList ++ Numeral.ofNat offset.toInt.natAbs ++ [';']
  else "/* redundant pointer move */".toList

/-- The lines of an instruction. -/
def statement : Instruction → List Text
  | .move offset => [move offset]
  | .cell op operand =>
    ["*ptr ".toList ++ op.symbol :: "= ".toList ++ Numeral.ofInt operand.toInt ++ [';']]
  | .output => ["putchar(*ptr);".toList]
  | .input => ["*ptr = getchar();".toList]
  | .insert text => insertStart :: text.splitLines ++ [insertEnd]

/-- The lines of a statement by itself, if it has any: a loop is only written out around its body,
and nothing is known of a foreign statement. -/
def single? : Node Item → Option (List Text)
  | .leaf (.instr i) => some (statement i)
  | .leaf (.foreign _) => none
  | .loop _ => none

/-- The line at the beginning of a loop. -/
def loopOpening : Text :=
  "while (*ptr) \x7b".toList

/-- The line at the end of a loop. -/
def loopEnding : Text :=
  ['\x7d']

/-- The lines before a program, with the indentation of one level, for the number of cells before
and from the initial place on. -/
def opening (indent : Text) (pre post : Nat) : List Text :=
  ["#include <stdio.h>".toList,
    [],
    "int main(void) \x7b".toList,
    indent ++ "static unsigned char cells[".toList ++ Numeral.ofNat (pre + post)
      ++ "] = \x7b0\x7d;".toList,
    indent ++ "unsigned char *ptr = cells".toList
      ++ (if pre = 0 then [] else " + ".toList ++ Numeral.ofNat pre) ++ [';']]

/-- The lines behind a program. -/
def ending (indent : Text) : List Text :=
  [indent ++ "return 0;".toList, ['\x7d']]

/-- The extension of files with C. -/
def extension : Text :=
  ['c']

/-- The backend for C. It refuses nothing by itself, but the indentation may fail around a program
too. -/
def backend {ε : Type} (indentation : Indentation ε) : Backend Instruction ε where
  extension
  indentation
  writesCells := true
  bodyDepth := 1
  opening pre post := indentation.level.map (opening · pre post)
  ending := indentation.level.map ending
  leaf i := .ok (statement i)
  loopOpening := .ok [loopOpening]
  loopEnding := .ok [loopEnding]

end TapeCompiler.C
