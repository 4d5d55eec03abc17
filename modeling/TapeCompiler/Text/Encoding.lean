import TapeCompiler.Text.Halves
import TapeCompiler.Text.Utf8

/-!
# Encodings

Bytes that are said to be JSON begin with a character of ASCII, so the zero bytes among the first
four tell whether the code units have 8, 16 or 32 bits, and in which order their bytes stand. In
units of 16 and 32 bits, half of a surrogate pair may stand alone.

## Main definitions

* `Encoding` — the encodings that are told apart
* `Encoding.detect` — the encoding of bytes
* `Encoding.codes?` — the code points that bytes stand for, halves of surrogate pairs among them
-/

namespace TapeCompiler

/-- The order of the bytes of a code unit. -/
inductive ByteOrder where
  /-- The most significant byte comes first. -/
  | big
  /-- The least significant byte comes first. -/
  | little
deriving DecidableEq, Repr

/-- An encoding of Unicode text. -/
inductive Encoding where
  /-- UTF-8, where a byte order mark may stand in front. -/
  | utf8
  /-- UTF-16. -/
  | utf16 (order : ByteOrder)
  /-- UTF-32. -/
  | utf32 (order : ByteOrder)
deriving DecidableEq, Repr

namespace Encoding

/-- The encoding of bytes, told by the zeros among the first four, or among the only two. -/
def detect : List UInt8 → Encoding
  | a :: b :: c :: d :: _ =>
    if a = 0 then if b = 0 then utf32 .big else utf16 .big
    else if b = 0 then if c = 0 ∧ d = 0 then utf32 .little else utf16 .little
    else utf8
  | [a, b] => if a = 0 then utf16 .big else if b = 0 then utf16 .little else utf8
  | _ => utf8

/-- The value of a code unit of 16 bits. -/
def unit16 (a b : UInt8) : ByteOrder → Nat
  | .big => a.toNat * 0x100 + b.toNat
  | .little => b.toNat * 0x100 + a.toNat

/-- The code units of 16 bits in bytes. There is no part of a unit behind the last. -/
def units16? (order : ByteOrder) (before : List Nat) : List UInt8 → Option (List Nat)
  | [] => some before.reverse
  | [_] => none
  | a :: b :: rest => units16? order (unit16 a b order :: before) rest

/-- The code points of code units of 16 bits. Halves that are not part of a pair are kept. -/
def joinPairs : List Nat → List Nat
  | [] => []
  | [unit] => [unit]
  | high :: low :: rest =>
    if 0xD800 ≤ high ∧ high < 0xDC00 ∧ 0xDC00 ≤ low ∧ low < 0xE000 then
      (0x10000 + (high - 0xD800) * 0x400 + (low - 0xDC00)) :: joinPairs rest
    else high :: joinPairs (low :: rest)

/-- The code units of 32 bits in bytes. None of them lies beyond the last code point, and there is
no part of a unit behind the last. -/
def units32? (order : ByteOrder) (before : List Nat) : List UInt8 → Option (List Nat)
  | [] => some before.reverse
  | a :: b :: c :: d :: rest =>
    let code := match order with
      | .big => unit16 a b .big * 0x10000 + unit16 c d .big
      | .little => unit16 c d .little * 0x10000 + unit16 a b .little
    if code < 0x110000 then units32? order (code :: before) rest else none
  | _ => none

/-- The code points that bytes stand for in an encoding. -/
def codes? (bytes : List UInt8) : Encoding → Option (List Nat)
  | utf8 =>
    match Utf8.decode ⟨bytes.toArray⟩ with
    | .ok ('\ufeff' :: t) => some (t.map Char.toNat)
    | .ok t => some (t.map Char.toNat)
    | .error _ => none
  | utf16 order => (units16? order [] bytes).map joinPairs
  | utf32 order => units32? order [] bytes

end Encoding

end TapeCompiler
