import TapeCompiler.Text.Numeral
import TapeCompiler.Text.Quoted

/-!
# Halves of surrogate pairs

Text from outside may hold half of a surrogate pair alone, which is no character. Such a half is
kept as a stand-in: a character that no script uses, and that the text does not use for itself. Then
a stand-in can be told from every other character, two halves have two stand-ins, and a half can be
found again behind everything that was done with the text. Stand-ins are taken from the first plane
as long as there are any, because there they are quoted by an escape of the same length as a half.

## Main definitions

* `Halves` — halves with their stand-ins
* `Halves.among` — stand-ins for the halves among given code points
* `Halves.char`, `Halves.unit?` — from a half to its stand-in, and back
* `Halves.firstRun?` — the halves that a text holds first
-/

namespace TapeCompiler

/-- Whether a code unit of sixteen bits is half of a surrogate pair. -/
def isHalf (unit : Nat) : Bool :=
  0xD800 ≤ unit && unit < 0xE000

/-- Halves of surrogate pairs with the characters that stand for them. -/
structure Halves where
  /-- The halves, each with the code point of its stand-in. -/
  standIns : List (Nat × Nat) := []
deriving DecidableEq, Repr

namespace Halves

/-- The code points that no script uses, in rows with their lengths: those for private use in the
first plane, those that are set aside there, and those of the two last planes. -/
def spareRows : List (Nat × Nat) :=
  [(0xE000, 0x1900), (0xFDD0, 0x20), (0xF0000, 0x20000)]

/-- The spare code point with a number in rows. -/
def spareIn (i : Nat) : List (Nat × Nat) → Nat
  | [] => 0
  | (first, length) :: rows => if i < length then first + i else spareIn (i - length) rows

/-- Whether a code point is spare. -/
def isSpare (code : Nat) : Bool :=
  spareRows.any fun (first, length) => first ≤ code && code < first + length

/-- Stand-ins for the halves among code points. They are none of these code points themselves: of
as many spare ones as there are halves and spare ones in use, enough are left. -/
def among (codes : List Nat) : Halves :=
  match (codes.filter isHalf).eraseDups with
  | [] => {}
  | halves =>
    let used := (codes.filter isSpare).eraseDups
    let free := ((List.range (halves.length + used.length)).map (spareIn · spareRows)).filter
      fun code => !used.contains code
    ⟨halves.zip free⟩

/-- The character that stands for a half. -/
def char (h : Halves) (unit : Nat) : Char :=
  match h.standIns.find? fun entry => entry.1 = unit with
  | some entry => Char.ofNat entry.2
  | none => '\ufffd'

/-- The half for which a character stands, if it stands for one. -/
def unit? (h : Halves) (c : Char) : Option Nat :=
  (h.standIns.find? fun entry => entry.2 = c.toNat).map (·.1)

/-- The character with a code point, or the stand-in of a half. -/
def ofCode (h : Halves) (code : Nat) : Char :=
  if isHalf code then h.char code else Char.ofNat code

/-- Whether a text holds a half. -/
def occurIn (h : Halves) (t : Text) : Bool :=
  t.any fun c => (h.unit? c).isSome

/-- Halves that stand side by side in a text. -/
structure Run where
  /-- The first half. -/
  unit : Nat
  /-- The offset of the first half. -/
  first : Nat
  /-- The offset of the last half. -/
  last : Nat
deriving DecidableEq, Repr

/-- The first halves in a text that starts at an offset: the first one with all that follow it side
by side. -/
def firstRun? (h : Halves) (offset : Nat) : Text → Option Run
  | [] => none
  | c :: rest =>
    match h.unit? c with
    | some unit =>
      some ⟨unit, offset, offset + (rest.takeWhile fun c => (h.unit? c).isSome).length⟩
    | none => firstRun? h (offset + 1) rest

/-- The wording of the failure to encode halves. A single one is shown, several are told by their
offsets. -/
def Run.message (r : Run) : Text :=
  "'utf-8' codec can't encode character".toList ++
    (if r.first = r.last then
      " '\\u".toList ++ Quoted.hexadecimal 4 r.unit ++ "' in position ".toList
        ++ Numeral.ofNat r.first
    else
      "s in position ".toList ++ Numeral.ofNat r.first ++ ['-'] ++ Numeral.ofNat r.last)
    ++ ": surrogates not allowed".toList

end Halves

end TapeCompiler
