import TapeCompiler.Code.C
import TapeCompiler.Proofs.Machine.Brackets
import TapeCompiler.Proofs.Machine.Memory

/-!
# Running C line by line

A text in C of the form that the compiler writes is run as it stands. Its first lines tell the size
of the tape and the initial place of the pointer; each of the other lines is a statement, the
beginning or the end of a loop, or the end of the program. Blanks in front of a line mean nothing.
Which brace ends a loop is found by counting the braces.

An operation on the active cell stores its exact result modulo 256; a division by zero cannot be
done.

## Main definitions

* `Statement.ofLine?` — what a line says
* `Listing.ofText?` — the sizes and the statements of a text
* `Listing.step` — a step of the machine
* `Listing.run` — the state after some steps
-/

namespace TapeCompiler

/-- What a line says. -/
inductive Statement where
  /-- Moves the pointer. -/
  | move (offset : Int)
  /-- Combines the active cell with an operand. -/
  | cell (op : Operator) (operand : Int)
  /-- Writes the active cell to the output. -/
  | put
  /-- Reads a byte from the input. -/
  | get
  /-- Does nothing. -/
  | comment
  /-- Begins a loop. -/
  | loop
  /-- Ends a loop, or the function. -/
  | close
  /-- Ends the program. -/
  | finish
deriving DecidableEq, Repr

namespace Text

/-- The part of a text between two others at its ends. -/
def between? (before behind t : Text) : Option Text := do
  let rest ← t.dropPrefix? before
  rest.dropSuffix? behind

/-- The number that a numeral without leading zeros stands for. -/
def natural? (t : Text) : Option Nat :=
  let n := Nat.ofDigitChars 10 t 0
  if Nat.toDigits 10 n = t then some n else none

/-- The number that a numeral stands for, which may be negative. -/
def integer? : Text → Option Int
  | '-' :: t => (natural? t).map fun n => -n
  | t => (natural? t).map fun n => n

end Text

namespace Statement

/-- What a line of the form `*ptr += 1;` says, with any operator and any operand. -/
def ofAssignment? (line : Text) : Option Statement := do
  let op :: rest ← Text.between? "*ptr ".toList [';'] line | none
  let op ← Operator.ofSymbol? [op]
  let operand ← (← Text.between? "= ".toList [] rest).integer?
  return .cell op operand

/-- What a line says, behind the blanks in front of it. -/
def ofLine? (line : Text) : Option Statement :=
  if line = "putchar(*ptr);".toList then some .put
  else if line = "*ptr = getchar();".toList then some .get
  else if line = "while (*ptr) \x7b".toList then some .loop
  else if line = "\x7d".toList then some .close
  else if line = "return 0;".toList then some .finish
  else if line = "/* redundant pointer move */".toList then some .comment
  else
    match Text.between? "ptr += ".toList [';'] line, Text.between? "ptr -= ".toList [';'] line with
    | some offset, _ => offset.integer?.map .move
    | _, some offset => offset.integer?.map fun offset => .move (-offset)
    | none, none => ofAssignment? line

/-- The exact result of an operation, if there is one. Division cuts off the fraction. -/
def result? (op : Operator) (value operand : Int) : Option Int :=
  match op with
  | .add => some (value + operand)
  | .mul => some (value * operand)
  | .div => if operand = 0 then none else some (value.tdiv operand)
  | .mod => if operand = 0 then none else some (value.tmod operand)

/-- What `getchar` returns: a byte, or minus one at the end of the input. -/
def getchar (byte : Option UInt8) : Int :=
  match byte with
  | some byte => byte.toNat
  | none => -1

/-- What a statement that neither begins nor ends a loop does to the memory. -/
def act? (m : Memory) : Statement → Option Memory
  | move offset => some (m.move offset)
  | cell op operand => m.change? fun value => (result? op value.toNat operand).map UInt8.ofInt
  | put => m.put?
  | get => m.get? fun byte => UInt8.ofInt (getchar byte)
  | comment => some m
  | _ => none

end Statement

/-- The sizes of the tape and the statements of a text in C. -/
structure Listing where
  /-- The number of cells. -/
  size : Nat
  /-- The place of the cell to which the pointer is set. -/
  start : Nat
  /-- The statements, one for each line, up to the brace that ends the function. -/
  body : List Statement

namespace Listing

/-- A line behind the blanks in front of it. -/
def dedent (line : Text) : Text :=
  line.dropWhile (· = ' ')

/-- The number of cells that a line declares. -/
def size? (line : Text) : Option Nat :=
  (Text.between? "static unsigned char cells[".toList "] = \x7b0\x7d;".toList line).bind
    Text.natural?

/-- The place of the cell to which a line sets the pointer. -/
def start? (line : Text) : Option Nat :=
  if line = "unsigned char *ptr = cells;".toList then some 0
  else (Text.between? "unsigned char *ptr = cells + ".toList [';'] line).bind Text.natural?

/-- The statements of some lines. An empty line has none. -/
def statements? : List Text → Option (List Statement)
  | [] => some []
  | line :: rest =>
    if dedent line = [] then statements? rest
    else do
      let statement ← Statement.ofLine? (dedent line)
      let others ← statements? rest
      return statement :: others

/-- What the lines of a text in C say, if they begin as expected. -/
def ofLines? : List Text → Option Listing
  | header :: gap :: function :: tape :: pointer :: body =>
    if header = "#include <stdio.h>".toList ∧ gap = [] ∧
        function = "int main(void) \x7b".toList then do
      let size ← size? (dedent tape)
      let start ← start? (dedent pointer)
      let body ← statements? body
      return { size, start, body }
    else none
  | _ => none

/-- What a text in C says. -/
def ofText? (t : Text) : Option Listing :=
  ofLines? t.splitLines

/-! ### The machine -/

/-- The braces among the statements. -/
def brackets : Brackets Statement where
  opens s := s = .loop
  closes s := s = .close

/-- A step of the machine that runs some statements. A brace that ends no loop ends the function. -/
def step (body : List Statement) (s : State) : State :=
  match s.control with
  | .running place =>
    match body[place]? with
    | some .loop => .test s.memory place (brackets.closing? body place)
    | some .close =>
      match brackets.opening? body place with
      | some beginning => ⟨.running beginning, s.memory⟩
      | none => ⟨.halted, s.memory⟩
    | some .finish => ⟨.halted, s.memory⟩
    | some statement => .proceed place s.memory (statement.act? s.memory)
    | none => ⟨.stuck, s.memory⟩
  | _ => s

/-- The state after `n` steps of a listing, with some input. -/
def run (l : Listing) (input : Stream'.Seq UInt8) (n : Nat) : State :=
  (step l.body)^[n] (.start (.blank l.size l.start input))

/-! ### Steps -/

variable {body : List Statement} {place : Nat}

theorem step_loop (h : body[place]? = some .loop) (m : Memory) :
    step body ⟨.running place, m⟩ = .test m place (brackets.closing? body place) := by
  simp only [step, h]

theorem step_close {beginning : Nat} (h : body[place]? = some .close)
    (hopening : brackets.opening? body place = some beginning) (m : Memory) :
    step body ⟨.running place, m⟩ = ⟨.running beginning, m⟩ := by
  simp only [step, h, hopening]

theorem step_finish (h : body[place]? = some .finish) (m : Memory) :
    step body ⟨.running place, m⟩ = ⟨.halted, m⟩ := by
  simp only [step, h]

theorem step_act {s : Statement} (h : body[place]? = some s) (hloop : s ≠ .loop)
    (hclose : s ≠ .close) (hfinish : s ≠ .finish) (m : Memory) :
    step body ⟨.running place, m⟩ = .proceed place m (s.act? m) := by
  simp only [step, h]

end Listing

end TapeCompiler
