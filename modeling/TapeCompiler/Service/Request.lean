import TapeCompiler.Options
import TapeCompiler.Service.Body
import TapeCompiler.Service.Finding
import TapeCompiler.Text.IntegerLiteral

/-!
# Requests

The body of a request is a JSON object. A request to compile has a source, and may have the two
sizes of the tape and the name of a target language, in capital letters or not; a request to format
has a source. Sizes are taken from all values that clearly stand for an integer. Unknown fields do
not count.

## Main definitions

* `CompileRequest`, `FormatRequest` — requests that are in order
* `CompileRequest.ofBody`, `FormatRequest.ofBody` — the request in a body, or why there is none
* `Rejection` — that the body cannot be read, or all that is wrong with it
-/

namespace TapeCompiler.Service

/-- A request to compile a source. -/
structure CompileRequest where
  /-- The source. -/
  source : Text
  /-- The number of cells before the initial place of the pointer. -/
  pre : Nat
  /-- The number of cells from the initial place of the pointer on. -/
  post : Nat
  /-- The target language. -/
  target : Target

/-- A request to format a source. -/
structure FormatRequest where
  /-- The source. -/
  source : Text

/-- Why there is no request in a body. -/
inductive Rejection where
  /-- The body cannot be read. -/
  | unreadable
  /-- This is wrong with the body. -/
  | findings (found : List Finding)

/-! ### Single values -/

/-- The integer that a value stands for. Texts with halves of surrogate pairs stand for none. -/
def readInteger (halves : Halves) : Json → Except Issue Int
  | .int n => .ok n
  | .bool b => .ok b.toInt
  | .special _ => .error .notFinite
  | .decimal d =>
    match d.wholePart with
    | .whole n => .ok n
    | .fractional => .error .fractional
    | .tooLarge => .error .tooLarge
  | .text t =>
    if halves.occurIn t then .error .notUnicode
    else
      (IntegerLiteral.readWhole t).mapError fun
        | .notNumeral => .notNumeral
        | .tooLong => .tooLarge
  | _ => .error .notInteger

/-- The size that a value stands for. -/
def readSize (halves : Halves) (value : Json) : Except Issue Nat := do
  match ← readInteger halves value with
  | .ofNat n => return n
  | .negSucc _ => throw .negative

/-- The text that a value is. -/
def readText : Json → Except Issue Text
  | .text t => .ok t
  | _ => .error .notText

/-- The target language that a value names, with capital letters taken for small ones. -/
def readTarget (value : Json) : Except Issue Target := do
  let name ← readText value
  match Target.ofName? (name.map Char.toLower) with
  | some target => return target
  | none => throw .noTarget

/-! ### Fields and bodies -/

/-- A field that has a default. -/
def optional {α : Type} (name : Text) (check : Json → Except Issue α) (standard : α)
    (body : Json) : Except Finding α :=
  match body.field? name with
  | none => .ok standard
  | some value => (check value).mapError fun issue => ⟨issue, some (.text name), value⟩

/-- A field that has to be there. -/
def required {α : Type} (name : Text) (check : Json → Except Issue α) (body : Json) :
    Except Finding α :=
  match body.field? name with
  | none => .error ⟨.missing, some (.text name), body⟩
  | some value => (check value).mapError fun issue => ⟨issue, some (.text name), value⟩

/-- The findings in a field. -/
def findings {α : Type} : Except Finding α → List Finding
  | .ok _ => []
  | .error f => [f]

/-- The object in a body, if the body is one. -/
def bodyObject (body : Body) : Except Rejection Json :=
  match body.content with
  | .value (.object fields) => .ok (.object fields)
  | .value value => .error (.findings [⟨.notObject, none, value⟩])
  | .malformed fault =>
    .error (.findings [⟨.malformed fault.cause, some (.int fault.offset), .object []⟩])
  | .empty => .error (.findings [⟨.missing, none, .null⟩])
  | .unreadable => .error .unreadable

/-- The request to compile in an object. -/
def CompileRequest.ofObject (halves : Halves) (body : Json) :
    Except (List Finding) CompileRequest :=
  let source := required "source".toList readText body
  let pre := optional "pre".toList (readSize halves) 0 body
  let post := optional "post".toList (readSize halves) defaultLength body
  let target := optional "backend".toList readTarget Target.c99 body
  match source, pre, post, target with
  | .ok source, .ok pre, .ok post, .ok target => .ok { source, pre, post, target }
  | _, _, _, _ => .error (findings source ++ findings pre ++ findings post ++ findings target)

/-- The request to format in an object. -/
def FormatRequest.ofObject (body : Json) : Except (List Finding) FormatRequest :=
  match required "source".toList readText body with
  | .ok source => .ok { source }
  | .error f => .error [f]

/-- The request to compile in a body. -/
def CompileRequest.ofBody (body : Body) : Except Rejection CompileRequest := do
  let object ← bodyObject body
  (CompileRequest.ofObject body.halves object).mapError .findings

/-- The request to format in a body. -/
def FormatRequest.ofBody (body : Body) : Except Rejection FormatRequest := do
  let object ← bodyObject body
  (FormatRequest.ofObject object).mapError .findings

end TapeCompiler.Service
