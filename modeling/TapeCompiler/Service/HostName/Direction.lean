import TapeCompiler.Service.HostName.Alphabet
import TapeCompiler.Service.HostName.Mark

/-!
# Directions in host names

Some scripts are written from the right to the left, most from the left to the right. Numbers,
marks and hyphens go with either kind (Unicode version 14.0). In a label, the two kinds are not
mixed, so that it can be read in one way only.

## Main definitions

* `Direction` — the directions of characters
* `Direction.ofChar` — the direction of a character that labels have
* `HostName.isDirected` — whether the directions in a label go together
-/

namespace TapeCompiler.Service.HostName

/-- In which direction a character is written. -/
inductive Direction where
  /-- From the left to the right. -/
  | fromLeft
  /-- From the right to the left. -/
  | fromRight
  /-- In the direction of numbers. -/
  | number
  /-- In the direction of numbers in Arabic. -/
  | arabicNumber
  /-- In the direction of the letter in front. -/
  | mark
  /-- In the direction of what stands around. -/
  | neutral
deriving DecidableEq, Repr

namespace Direction

/-- Whether a character is one of the digits that are used with Arabic or like them. -/
def isArabicNumber (c : Char) : Bool :=
  isAmong [(0x660, 0x669), (0x10D30, 0x10D39)] c

/-- Whether a character is one of the digits of ASCII, or one of those that are used with
Persian. -/
def isNumber (c : Char) : Bool :=
  isAmong [(0x30, 0x39), (0x6F0, 0x6F9)] c

/-- Whether a character is a letter that is written from the right to the left. Marks may lie among
them. -/
def isFromRight (c : Char) : Bool :=
  isAmong [(0x5D0, 0x64A), (0x66E, 0x6EF), (0x6FA, 0x8C9), (0xFE73, 0xFE73), (0x10800, 0x10D23),
    (0x10E80, 0x10FF6), (0x1E800, 0x1E959)] c

/-- Whether a character has no direction of its own. -/
def isNeutral (c : Char) : Bool :=
  isAmong [(0x2D, 0x2D), (0xB7, 0xB7), (0x2B9, 0x2BA), (0x2C6, 0x2CF), (0x2EC, 0x2EC),
    (0x375, 0x375), (0x200C, 0x200D), (0x2E2F, 0x2E2F), (0x30FB, 0x30FB), (0xA67F, 0xA67F),
    (0xA717, 0xA71F), (0xA788, 0xA788)] c

/-- The direction of a character that labels have. -/
def ofChar (c : Char) : Direction :=
  if isNonspacing c then .mark
  else if isArabicNumber c then .arabicNumber
  else if isNumber c then .number
  else if isNeutral c then .neutral
  else if isFromRight c then .fromRight
  else .fromLeft

end Direction

/-- Whether the directions in a label go together. If there is a letter or a number from the right
to the left, then the label begins with such a letter, has none from the left to the right, has
numbers of one kind only, and ends with a letter or a number, apart from marks. -/
def isDirected (label : Text) : Bool :=
  let directions := label.map Direction.ofChar
  let has := fun d => directions.any (· = d)
  if has .fromRight || has .arabicNumber then
    directions.head? = some .fromRight && !has .fromLeft && !(has .number && has .arabicNumber)
      && (directions.reverse.dropWhile (· = .mark)).head? ≠ some .neutral
  else true

end TapeCompiler.Service.HostName
