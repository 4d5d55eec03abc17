import Mathlib.Data.Seq.Defs
import Mathlib.Logic.Function.Iterate

/-!
# What a machine works on

A machine has a tape of bytes, a pointer that may also point beside the tape, the input that is
still to be read, and the output written so far. The input may come to an end or not.

Besides, a machine stands at a place of its code, or it has come to the end, or it is stuck.

## Main definitions

* `Memory` — the tape, the pointer, the input and the output
* `State` — the memory, and where a machine stands
-/

namespace TapeCompiler

/-- What a machine works on. -/
structure Memory where
  /-- The cells of the tape. -/
  cells : List UInt8
  /-- The place of the active cell, which need not be on the tape. -/
  pointer : Int
  /-- The bytes that are still to be read. -/
  input : Stream'.Seq UInt8
  /-- The bytes that were written. -/
  output : List UInt8

namespace Memory

/-- A tape of zeros, before anything is read or written. -/
def blank (size start : Nat) (input : Stream'.Seq UInt8) : Memory where
  cells := List.replicate size 0
  pointer := start
  input
  output := []

/-- The active cell, if the pointer is on the tape. -/
def cell? (m : Memory) : Option UInt8 :=
  if 0 ≤ m.pointer then m.cells[m.pointer.toNat]? else none

/-- Moves the pointer. -/
def move (offset : Int) (m : Memory) : Memory :=
  { m with pointer := m.pointer + offset }

/-- Changes the active cell. Without one, this cannot be done. -/
def change? (f : UInt8 → Option UInt8) (m : Memory) : Option Memory := do
  let value ← m.cell?
  let value ← f value
  return { m with cells := m.cells.set m.pointer.toNat value }

/-- Writes the active cell to the output. -/
def put? (m : Memory) : Option Memory := do
  let value ← m.cell?
  return { m with output := m.output ++ [value] }

/-- Reads the next byte of the input, or finds its end, and stores in the active cell what becomes
of it. -/
def get? (store : Option UInt8 → UInt8) (m : Memory) : Option Memory := do
  let m' ← m.change? fun _ => some (store m.input.head)
  return { m' with input := m.input.tail }

end Memory

/-- Where a machine stands in its code. -/
inductive Control where
  /-- At a place, which comes next. -/
  | running (place : Nat)
  /-- At the end. -/
  | halted
  /-- At something that cannot be done. -/
  | stuck
deriving DecidableEq, Repr

/-- All that a machine knows. -/
structure State where
  /-- Where the machine stands. -/
  control : Control
  /-- What it works on. -/
  memory : Memory

namespace State

/-- The first place of the code, with some memory. -/
def start (m : Memory) : State where
  control := .running 0
  memory := m

/-- Goes on behind a place if what stands there could be done. -/
def proceed (place : Nat) (m : Memory) : Option Memory → State
  | some m' => ⟨.running (place + 1), m'⟩
  | none => ⟨.stuck, m⟩

/-- Goes on at another place, if there is one. -/
def jump (m : Memory) : Option Nat → State
  | some place => ⟨.running place, m⟩
  | none => ⟨.stuck, m⟩

/-- Goes into the body of a loop if the active cell is not zero, and behind its end otherwise. -/
def test (m : Memory) (place : Nat) (ending : Option Nat) : State :=
  match m.cell? with
  | some value => jump m (if value = 0 then ending.map (· + 1) else some (place + 1))
  | none => ⟨.stuck, m⟩

end State

end TapeCompiler
