import TapeCompiler.Json.Reader
import TapeCompiler.Text.Encoding

/-!
# Bodies of requests

A body is JSON in one of the encodings of Unicode. Stand-ins for halves of surrogate pairs are
chosen so that the body does not use them, neither as characters nor as numbered escapes. Nesting
and the length of integers are bounded.

## Main definitions

* `Body` — a body that was read
* `Body.ofText` — reads a body that is sent as UTF-8
-/

namespace TapeCompiler.Service

/-- What is in a body. -/
inductive Content where
  /-- Nothing. -/
  | empty
  /-- Bytes that do not stand for characters, or a value beyond the bounds. -/
  | unreadable
  /-- Characters that are not JSON. -/
  | malformed (fault : Json.Fault)
  /-- A value. -/
  | value (v : Json)

/-- A body that was read. -/
structure Body where
  /-- The stand-ins for halves of surrogate pairs in it. -/
  halves : Halves := {}
  /-- What is in it. -/
  content : Content

namespace Body

/-- The greatest number of arrays and objects within each other. -/
def maxDepth : Nat := 968

/-- The greatest number of digits of an integer. -/
def maxDigits : Nat := 4300

/-- The values of the numbered escapes in a text. -/
def escapes : Text → List Nat
  | [] => []
  | c :: rest =>
    match c, rest with
    | '\\', 'u' :: digits => (Json.fourDigits? digits).toList ++ escapes rest
    | _, _ => escapes rest

/-- Stand-ins for the halves in a body with the given code points. -/
def standIns (codes : List Nat) : Halves :=
  .among (codes ++ escapes (codes.map ({} : Halves).ofCode))

/-- Reads a body with the given code points. -/
def ofCodes (codes : List Nat) : Body :=
  let halves := standIns codes
  let terms : Json.Terms := { halves, depth := some maxDepth, digits := some maxDigits }
  match Json.readWith terms (codes.map halves.ofCode) with
  | .ok v => { halves, content := .value v }
  | .error fault =>
    { halves, content := if fault.cause.isBound then .unreadable else .malformed fault }

/-- Reads a body that is sent as UTF-8. Its bytes may look like those of another encoding. -/
def ofText (t : Text) : Body :=
  if t = [] then { content := .empty }
  else
    let bytes := (Utf8.encode t).toList
    match (Encoding.detect bytes).codes? bytes with
    | some codes => ofCodes codes
    | none => { content := .unreadable }

end Body

end TapeCompiler.Service
