import TapeCompiler.Service.HostName.Composition
import TapeCompiler.Service.HostName.Direction
import TapeCompiler.Service.HostName.Joining
import TapeCompiler.Service.HostName.Punycode

/-!
# Host names beyond ASCII

A host name with characters beyond ASCII is a row of labels between dots; capital letters count as
their small ones. Labels are made of letters, digits, marks and hyphens, and of a few other
characters that are allowed between certain neighbours. It has to be possible to write the name in
characters of ASCII within the bounds for names, and labels that are already written so are read and
checked like others.

## Main definitions

* `HostName.isLabel` — whether a text is a label
* `HostName.toAscii?` — a label in characters of ASCII
* `HostName.isValid` — whether a text is a host name
-/

namespace TapeCompiler.Service.HostName

/-! ### Labels -/

/-- Whether a character is one of the digits that are used with Arabic. -/
def isArabicDigit (c : Char) : Bool :=
  isAmong [(0x660, 0x669)] c

/-- Whether a character is one of the digits that are used with Persian. -/
def isPersianDigit (c : Char) : Bool :=
  isAmong [(0x6F0, 0x6F9)] c

/-- Whether a character can stand in a label between these neighbours; those before it are given in
reverse. A dot at half height stands between two letters `l` or among Japanese characters, signs for
numbers stand beside a letter of their script, and the two kinds of digits from the right to the
left are not mixed. -/
def fits (label before behind : Text) (c : Char) : Bool :=
  if c = '·' then before.head? = some 'l' && behind.head? = some 'l'
  else if c = '\u0375' then (behind.head?.map isGreek) = some true
  else if c = '\u05F3' || c = '\u05F4' then (before.head?.map isHebrew) = some true
  else if c = '・' then label.any isJapanese
  else if c = '\u200C' then isKilled before || isJoined before behind
  else if c = '\u200D' then isKilled before
  else if isArabicDigit c then !label.any isPersianDigit
  else if isPersianDigit c then !label.any isArabicDigit
  else isOrdinary c

/-- Whether the rest of a label fits behind what stands before it. -/
def fitBehind (label before : Text) : Text → Bool
  | [] => true
  | c :: rest => fits label before rest c && fitBehind label (c :: before) rest

/-- Whether hyphens stand neither at the ends of a label nor at its third and fourth place, which
tell that it is written in characters of ASCII. -/
def areHyphensApart (label : Text) : Bool :=
  label.head? ≠ some '-' && label.getLast? ≠ some '-' && (label.drop 2).take 2 ≠ ['-', '-']

/-- Whether a text is a label. -/
def isLabel (label : Text) : Bool :=
  label ≠ [] && areHyphensApart label && (label.head?.map isMark) ≠ some true
    && fitBehind label [] label && isDirected label && Composition.isComposed label

/-! ### Names -/

/-- What stands before a label that is written in characters of ASCII. -/
def mark : Text := "xn--".toList

/-- Whether a label that is written in characters of ASCII stands for a label. -/
def isEncoded (t : Text) : Bool :=
  t ≠ [] && t.getLast? ≠ some '-' && ((Punycode.decode? t).map isLabel) = some true

/-- The greatest length of a label in characters of ASCII. -/
def maxLabelLength : Nat := 63

/-- The greatest length of a name in characters of ASCII. -/
def maxLength : Nat := 253

/-- A label in characters of ASCII. -/
def toAscii? (label : Text) : Option Text :=
  let ascii :=
    if label.all (·.toNat < 128) then
      if if mark.isPrefixOf label then isEncoded (label.drop mark.length) else isLabel label then
        some label
      else none
    else if isLabel label then some (mark ++ Punycode.encode label)
    else none
  ascii.filter (·.length ≤ maxLabelLength)

/-- Whether a character stands between labels. -/
def isDot (c : Char) : Bool :=
  c = '.' || c = '。' || c = '．' || c = '｡'

/-- Whether a text is a host name. A dot may stand behind the last label. No name gets shorter by
being written in characters of ASCII. -/
def isValid (t : Text) : Bool :=
  let small := LowerCase.ofText t
  let labels := small.pieces isDot
  let labels := if labels.getLast? = some [] then labels.dropLast else labels
  small.length ≤ maxLength + 1 && labels.all (fun label => (toAscii? label).isSome)
    && (Text.join ['.'] (labels.filterMap toAscii?)).length ≤ maxLength

end TapeCompiler.Service.HostName
