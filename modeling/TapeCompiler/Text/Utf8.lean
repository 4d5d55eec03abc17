import TapeCompiler.Text.Numeral
import TapeCompiler.Text.Quoted

/-!
# UTF-8

Reading bytes as UTF-8, with the place and the cause of the first fault if they are none.

## Main definitions

* `Utf8.encode` — the bytes of a text
* `Utf8.decode` — the text of bytes, or the first fault
* `Utf8.Fault.message` — the wording of a fault
-/

namespace TapeCompiler.Utf8

/-- Why bytes are not UTF-8. -/
inductive Cause where
  /-- No character starts with this byte. -/
  | invalidStart
  /-- The character goes on with a byte that cannot stand there. -/
  | invalidContinuation
  /-- The bytes end within a character. -/
  | unexpectedEnd
deriving DecidableEq, Repr

/-- The bytes that cannot be read, from the first to the last of them. -/
structure Fault where
  /-- The offset of the first byte. -/
  first : Nat
  /-- The offset of the last byte. -/
  last : Nat
  /-- The first byte itself. -/
  byte : UInt8
  /-- What is wrong. -/
  cause : Cause
deriving DecidableEq, Repr

/-- A character that has begun: where, with which byte, how many bytes are still to come, and the
range in which the next of them lies. -/
structure Pending where
  /-- The offset of the first byte. -/
  first : Nat
  /-- The first byte. -/
  byte : UInt8
  /-- The number of bytes to come. -/
  missing : Nat
  /-- The least byte that can come next. -/
  low : UInt8
  /-- The greatest byte that can come next. -/
  high : UInt8

/-- What the first byte of a character of several bytes announces. The range of the second byte
leaves out longer forms than needed, surrogates, and what lies beyond the last code point. -/
def begin? (offset : Nat) (b : UInt8) : Option Pending :=
  if b < 0xC2 then none
  else if b < 0xE0 then some ⟨offset, b, 1, 0x80, 0xBF⟩
  else if b < 0xF0 then
    some ⟨offset, b, 2, if b = 0xE0 then 0xA0 else 0x80, if b = 0xED then 0x9F else 0xBF⟩
  else if b < 0xF5 then
    some ⟨offset, b, 3, if b = 0xF0 then 0x90 else 0x80, if b = 0xF4 then 0x8F else 0xBF⟩
  else none

/-- The first fault in the bytes from `offset` on, where a character may already have begun. -/
def fault? (offset : Nat) (pending : Option Pending) : List UInt8 → Option Fault
  | [] => pending.map fun p => ⟨p.first, offset - 1, p.byte, .unexpectedEnd⟩
  | b :: rest =>
    match pending with
    | some p =>
      if p.low ≤ b ∧ b ≤ p.high then
        let next := if p.missing = 1 then none
          else some { p with missing := p.missing - 1, low := 0x80, high := 0xBF }
        fault? (offset + 1) next rest
      else some ⟨p.first, offset - 1, p.byte, .invalidContinuation⟩
    | none =>
      if b < 0x80 then fault? (offset + 1) none rest
      else
        match begin? offset b with
        | some p => fault? (offset + 1) (some p) rest
        | none => some ⟨offset, offset, b, .invalidStart⟩

/-- The bytes of a text. -/
def encode (t : Text) : ByteArray :=
  (String.ofList t).toUTF8

/-- The text that bytes stand for, or the first fault in them. -/
def decode (bytes : ByteArray) : Except Fault Text :=
  match String.fromUTF8? bytes with
  | some s => .ok s.toList
  | none => .error ((fault? 0 none bytes.toList).getD ⟨0, 0, 0, .invalidStart⟩)

/-- The wording of a cause. -/
def Cause.message : Cause → Text
  | .invalidStart => "invalid start byte".toList
  | .invalidContinuation => "invalid continuation byte".toList
  | .unexpectedEnd => "unexpected end of data".toList

/-- The wording of a fault. A single byte is shown, several are told by their offsets. -/
def Fault.message (f : Fault) : Text :=
  "'utf-8' codec can't decode byte".toList ++
    (if f.first = f.last then
      " 0x".toList ++ Quoted.hexadecimal 2 f.byte.toNat ++ " in position ".toList
        ++ Numeral.ofNat f.first
    else
      "s in position ".toList ++ Numeral.ofNat f.first ++ ['-'] ++ Numeral.ofNat f.last)
    ++ ": ".toList ++ f.cause.message

end TapeCompiler.Utf8
