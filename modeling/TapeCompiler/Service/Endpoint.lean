import TapeCompiler.Compile
import TapeCompiler.Service.Delivery
import TapeCompiler.Service.Request

/-!
# The compile service

A service on the web lists the target languages, compiles sources and formats them. Requests and
answers are JSON. A request that is not in order, options that are refused, and a source that is no
program get an answer with the status 422 and the details. A body that cannot be read at all gets
one with the status 400.

## Main definitions

* `Service.compile`, `Service.format` — the answers to requests that are in order
* `Service.route` — the answer to any request that reached the service
* `Service.respond` — the answer to a request, or why there is none
-/

namespace TapeCompiler.Service

/-- The details of a syntax error. -/
def syntaxErrorDetail (e : SyntaxError) : Json :=
  .object [("message".toList, .text e.message), ("remaining".toList, .text e.remaining),
    ("position".toList, .int e.offset), ("line".toList, .int e.position.line),
    ("column".toList, .int e.position.column)]

/-- The target languages. -/
def targets : Response :=
  ⟨200, .object [("backends".toList, .array (Target.all.map fun target =>
    .object [("name".toList, .text target.name),
      ("extension".toList, .text target.extension)]))]⟩

/-- The answer with the code of a program. -/
def compiled (target : Target) (program : Program) (code : Code) : Response :=
  ⟨200, .object [("code".toList, .text code.text), ("extension".toList, .text code.extension),
    ("backend".toList, .text target.name),
    ("statement_count".toList, .int program.statements.length)]⟩

/-- The options that a request asks for, before they are checked. -/
def CompileRequest.options (r : CompileRequest) : Options.Unchecked where
  pre := .int r.pre
  post := .int r.post
  target := .text r.target.name

/-- Compiles a source. Options are checked before the source is read. -/
def compile (r : CompileRequest) : Except Failure Response :=
  match r.options.check with
  | .error fault => .ok (.refusal 422 (.text fault.message))
  | .ok options =>
    match parse r.source with
    | .error e => .ok (.refusal 422 (syntaxErrorDetail e))
    | .ok program =>
      match options.code? Indentation.standard program with
      | some code => .ok (compiled options.target program code)
      | none => .error .unwritable

/-- Formats a source. -/
def format (r : FormatRequest) : Response :=
  match TapeCompiler.format r.source with
  | .ok t => ⟨200, .object [("formatted".toList, .text t)]⟩
  | .error e => .refusal 422 (syntaxErrorDetail e)

/-- Answers a request that is in order, and reports what is wrong with any other. -/
def answer {α : Type} (handle : α → Except Failure Response) :
    Except Rejection α → Except Failure Response
  | .ok request => handle request
  | .error (.findings found) => .ok (.refusal 422 (.array (found.map Finding.report)))
  | .error .unreadable => .ok (.refusal 400 (.text "There was an error parsing the body".toList))

/-- A place of the service. -/
inductive Endpoint where
  /-- The list of target languages. -/
  | targets
  /-- The compiler. -/
  | compile
  /-- The formatter. -/
  | format

namespace Endpoint

/-- The path of an endpoint. -/
def path : Endpoint → Text
  | targets => "/api/backends".toList
  | compile => "/api/compile".toList
  | format => "/api/format".toList

/-- The endpoint at a path. Slashes at its end do not count, and neither does one line feed in front
of them. -/
def ofPath? (path : Text) : Option Endpoint :=
  let path := (path.reverse.dropWhile (· = '/')).reverse
  [targets, compile, format].find? fun e => path = e.path || path = e.path ++ ['\n']

/-- The method of an endpoint. -/
def method : Endpoint → Text
  | targets => "GET".toList
  | compile => "POST".toList
  | format => "POST".toList

/-- The answer of an endpoint to a body, or why there is none. -/
def respond (body : Body) : Endpoint → Except Failure Response
  | targets => .ok Service.targets
  | compile => answer Service.compile (CompileRequest.ofBody body)
  | format => answer (fun request => .ok (Service.format request)) (FormatRequest.ofBody body)

end Endpoint

/-- The capital letters of a character that is a letter, as far as they are letters of ASCII. Beyond
ASCII, these are the long s and two ligatures. -/
def capitals : Char → Text
  | 'ſ' => ['S']
  | 'ﬅ' => ['S', 'T']
  | 'ﬆ' => ['S', 'T']
  | c => [c.toUpper]

/-- The answer to a request that reached the service, or why there is none. -/
def route (method path : Text) (body : Body) : Except Failure Response :=
  match Endpoint.ofPath? path with
  | none => .ok (.refusal 404 (.text "Not Found".toList))
  | some endpoint =>
    if method = endpoint.method then endpoint.respond body
    else .ok (.refusal 405 (.text "Method Not Allowed".toList))

/-- The answer to a request, or why there is none. The case of the letters of its method does not
count. What a request for the head alone gets has no body. -/
def respond (method address body : Text) : Except Failure Response := do
  let address ← (Address.ofText address).mapError .address
  let path ← address.path.mapError .address
  let method := method.flatMap capitals
  let body := Body.ofText body
  let response ← (← route method path body).send body.halves
  if method = "HEAD".toList then throw .noBody
  return response

end TapeCompiler.Service
