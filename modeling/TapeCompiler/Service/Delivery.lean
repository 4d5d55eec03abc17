import TapeCompiler.Code.Tape
import TapeCompiler.Json.Printer
import TapeCompiler.Service.Address
import TapeCompiler.Text.Halves

/-!
# Sending answers

An answer is written as JSON in UTF-8. That is not possible for all values that come from a request
and are shown in the answer to it: JSON has no numbers that are not finite, and UTF-8 has no halves
of surrogate pairs.

## Main definitions

* `Service.Response` — a status with a body
* `Service.Failure` — why there is no answer
* `Service.Response.send` — the answer as it can be sent
-/

namespace TapeCompiler.Service

/-- An answer of the service. -/
structure Response where
  /-- The status. -/
  status : Nat
  /-- The body. -/
  body : Json

/-- An answer that says why there is no other. -/
def Response.refusal (status : Nat) (detail : Json) : Response :=
  ⟨status, .object [("detail".toList, detail)]⟩

/-- Why there is no answer to a request. -/
inductive Failure where
  /-- The request cannot be sent. -/
  | address (fault : Address.Fault)
  /-- The number of cells in code would have to be written, and has too many digits. -/
  | unwritable
  /-- A number that is not finite would have to be written. -/
  | notFinite
  /-- Halves of surrogate pairs would have to be written in the report of a failure. -/
  | halves (run : Halves.Run)
  /-- Halves of surrogate pairs would have to be written in a result. -/
  | resultHalves (run : Halves.Run)
  /-- The answer has no body, so that there is no JSON in it. -/
  | noBody
deriving DecidableEq

/-- The wording of a failure, where there is one. -/
def Failure.message? : Failure → Option Text
  | address fault => fault.message?
  | unwritable => some Tape.Fault.unwritable.message
  | notFinite => some "Out of range float values are not JSON compliant".toList
  | halves run => some run.message
  | resultHalves run =>
    some ("Error serializing to JSON: UnicodeEncodeError: ".toList ++ run.message)
  | noBody => some "Expecting value: line 1 column 1 (char 0)".toList

namespace Response

/-- The texts among the fields of the body of an answer. -/
def texts (r : Response) : List Text :=
  match r.body with
  | .object fields => fields.filterMap fun
    | (_, .text t) => some t
    | _ => none
  | _ => []

/-- The answer as it can be sent. In a result the texts are written one by one, and a report is
written as a whole. -/
def send (halves : Halves) (r : Response) : Except Failure Response :=
  if r.status = 200 then
    match r.texts.findSome? (halves.firstRun? 0) with
    | some run => .error (.resultHalves run)
    | none => .ok r
  else if r.body.isFinite then
    match halves.firstRun? 0 r.body.render with
    | some run => .error (.halves run)
    | none => .ok r
  else .error .notFinite

end Response

end TapeCompiler.Service
