import TapeCompiler.Json.Basic

/-!
# Indentation

Lines are indented by the text of one level, repeated as often as the line is deep; a depth below
one gives no indentation.

In the place of that text there may be any other value, as nobody checks it. Around a program the
value is written as it is shown, if it can be shown. Inside a program it cannot be used: some values
cannot be repeated, which is found out whenever lines are to be written, and the others cannot be
put in front of a text, which is found out by the first line that is not empty.

## Main definitions

* `Indentation` — how lines are indented
* `Indentation.ofText`, `Indentation.ofValue` — by a text, and by any value
* `Indentation.limited` — the same for depths that come from outside, which can be too great
* `Indentation.Fault.wording` — the wording of a failure
-/

namespace TapeCompiler

/-- How lines are indented. -/
structure Indentation (ε : Type) where
  /-- One level, as it stands in front of the lines around a program. -/
  level : Except ε Text
  /-- What stands in front of the lines at a depth. A failure of the whole comes up with every
  writing at this depth, one of the result only with a line that is not empty. -/
  margin : Int → Except ε (Except ε Text)

namespace Indentation

/-- The text of one level, if none is given. -/
def standard : Text :=
  "    ".toList

/-- Why lines cannot be indented. -/
inductive Fault where
  /-- A value of this kind cannot be repeated. -/
  | notRepeatable (kind : Text)
  /-- A number of this kind cannot be put in front of a text. -/
  | notJoinable (kind : Text)
  /-- An array cannot be put in front of a text. -/
  | array
  /-- The depth does not fit into a word. -/
  | depth
  /-- The depth is greater than all numbers with a point. -/
  | fraction
  /-- The length of the indentation does not fit into a word. -/
  | length
  /-- There is no room for the indentation. -/
  | room
  /-- The value cannot be shown. -/
  | unshown (reason : Json.Unshown)
deriving DecidableEq, Repr

/-- The wording of a failure, if there is more to it than that the value cannot be shown. -/
def Fault.wording : Fault → Except Json.Unshown Text
  | notRepeatable kind =>
    .ok ("unsupported operand type(s) for *: '".toList ++ kind ++ "' and 'int'".toList)
  | notJoinable kind =>
    .ok ("unsupported operand type(s) for +: '".toList ++ kind ++ "' and 'str'".toList)
  | array => .ok "can only concatenate list (not \"str\") to list".toList
  | depth => .ok "cannot fit 'int' into an index-sized integer".toList
  | fraction => .ok "int too large to convert to float".toList
  | length => .ok "repeated string is too long".toList
  | room => .ok []
  | unshown reason => .error reason

variable {ε δ : Type}

/-- Indentation by a text. -/
def ofText (level : Text) : Indentation ε where
  level := .ok level
  margin depth := .ok (.ok (level.times depth))

/-- Indentation by any value. -/
def ofValue : Json → Indentation Fault
  | .text level => ofText level
  | value =>
    { level := value.shown.mapError .unshown
      margin := fun _ =>
        match value with
        | .array _ => .ok (.error .array)
        | .bool _ => .ok (.error (.notJoinable (Json.int 0).kind))
        | .int _ | .decimal _ | .special _ => .ok (.error (.notJoinable value.kind))
        | _ => .error (.notRepeatable value.kind) }

/-- The greatest number that fits into a word of 64 bits. -/
def maxWord : Nat := 9223372036854775807

/-- The number of characters for which there is no room any more. -/
def noRoom : Nat := 34359738368

/-- The least integer that is too great for a number with a point: half a step behind the greatest
of them, which has 53 binary digits in front of 971 zeros. -/
def noFraction : Nat :=
  Nat.pow 2 1024 - Nat.pow 2 970

/-- Whether a depth fits into a word. -/
def fitsWord (depth : Int) : Bool :=
  -(maxWord : Int) - 1 ≤ depth && depth ≤ maxWord

/-- Whether a value can be repeated as often as a depth says. -/
def checkDepth (depth : Int) : Json → Except Fault Unit
  | .text level =>
    if ! fitsWord depth then .error .depth
    else if maxWord < level.length * depth.toNat then .error .length
    else if noRoom ≤ level.length * depth.toNat then .error .room
    else .ok ()
  | .array values =>
    if ! fitsWord depth then .error .depth
    else if noRoom ≤ values.length * depth.toNat then .error .room
    else .ok ()
  | .decimal _ | .special _ => if noFraction ≤ depth.natAbs then .error .fraction else .ok ()
  | _ => .ok ()

/-- Indentation by any value at depths that come from outside. -/
def limited (value : Json) : Indentation Fault :=
  { ofValue value with
    margin := fun depth => do
      checkDepth depth value
      (ofValue value).margin depth }

/-- The same indentation, with its failures told in another way. -/
def mapFault (f : ε → δ) (i : Indentation ε) : Indentation δ where
  level := i.level.mapError f
  margin depth :=
    match i.margin depth with
    | .ok margin => .ok (margin.mapError f)
    | .error fault => .error (f fault)

end Indentation

end TapeCompiler
