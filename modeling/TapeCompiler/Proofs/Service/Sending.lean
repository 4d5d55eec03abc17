import TapeCompiler.Proofs.Service.Answer
import TapeCompiler.Proofs.Source.Beginning
import TapeCompiler.Proofs.Text.Halves

/-!
# What the service sends

An answer is sent as JSON in UTF-8. For the answers to requests in order only one thing gets in the
way of that: a text with half of a surrogate pair, which an escape in a request can bring in, and
which would have to be sent back.

## Main definitions

* `IsRefused`, `IsAnswered` — what comes of a refusal and of a result that show a text

## Main results

* `Halves.AvoidPlain.occurIn_render_detail` — the details of a syntax error hold a half only if the
  text that was not consumed does
* `Response.send_result`, `Response.send_refusal` — when an answer can be sent
* `CompileRequest.ofBody_eq_ok` — which requests to compile are in order
* `respond_compile`, `respond_format` — what comes of the answers to requests in order
-/

namespace TapeCompiler

/-! ### The details of a syntax error -/

namespace Halves.AvoidPlain

variable {h : Halves} (havoid : h.AvoidPlain)
include havoid

theorem occurIn_ofInt (n : Int) : h.occurIn (Numeral.ofInt n) = false :=
  havoid.occurIn_of_isPlain (Numeral.isPlain_ofInt n)

theorem occurIn_reason {source : Text} {e : SyntaxError} (rejected : parse source = .error e)
    (hremaining : h.occurIn e.remaining = false) : h.occurIn e.reason.message = false := by
  cases hreason : e.reason with
  | unexpected c =>
    -- The character is shown in quotes, and it is one of those that were not consumed.
    have hc := occurIn_eq_false_iff.mp hremaining c (SyntaxError.mem_remaining rejected hreason)
    have hquoted := havoid.occurIn_ofText (t := [c]) (by simp [hc])
    have hwords : h.occurIn "Unexpected character ".toList = false :=
      havoid.occurIn_of_isPlain (by decide)
    have hmessage : (Reason.unexpected c).message =
        "Unexpected character ".toList ++ Quoted.ofText [c] := rfl
    rw [hmessage, occurIn_append, hwords, hquoted, Bool.or_self]
  | _ => exact havoid.occurIn_of_isPlain (by decide)

theorem occurIn_message {source : Text} {e : SyntaxError} (rejected : parse source = .error e)
    (hremaining : h.occurIn e.remaining = false) : h.occurIn e.message = false := by
  have hreason := havoid.occurIn_reason rejected hremaining
  have hpreview : h.occurIn (preview e.remaining) = false := by
    unfold preview
    split_ifs
    · exact hremaining
    · rw [occurIn_append, occurIn_take hremaining]
      exact havoid.occurIn_of_isPlain (by decide)
  have hquoted := havoid.occurIn_ofText hpreview
  have hline : h.occurIn " at line ".toList = false := havoid.occurIn_of_isPlain (by decide)
  have hcolumn : h.occurIn ", column ".toList = false := havoid.occurIn_of_isPlain (by decide)
  have hcolon : h.occurIn ": ".toList = false := havoid.occurIn_of_isPlain (by decide)
  simp only [SyntaxError.message, Reason.messageAt, occurIn_append, hreason, hline, hcolumn, hcolon,
    hquoted, havoid.occurIn_ofInt, Bool.or_self]

/-- The details of a syntax error hold a half only if the text that was not consumed does. -/
theorem occurIn_render_detail {source : Text} {e : SyntaxError} (rejected : parse source = .error e)
    (hremaining : h.occurIn e.remaining = false) :
    h.occurIn (Service.syntaxErrorDetail e).render = false := by
  have hmessage : h.occurIn (Json.text e.message).render = false := by
    rw [Json.render]
    exact havoid.occurIn_quoted (havoid.occurIn_message rejected hremaining)
  have htext : h.occurIn (Json.text e.remaining).render = false := by
    rw [Json.render]
    exact havoid.occurIn_quoted hremaining
  have hint : ∀ n, h.occurIn (Json.int n).render = false := by
    intro n
    rw [Json.render]
    exact havoid.occurIn_ofInt n
  have hplain : ∀ key ∈ ["message", "remaining", "position", "line", "column"],
      Text.IsPlain key.toList := by decide
  have hkey := fun key hmem => havoid.occurIn_of_isPlain (hplain key hmem)
  refine havoid.occurIn_render_object fun field hfield => ?_
  simp only [List.mem_cons, List.not_mem_nil, or_false] at hfield
  rcases hfield with rfl | rfl | rfl | rfl | rfl
  · exact ⟨hkey "message" (by simp), hmessage⟩
  · exact ⟨hkey "remaining" (by simp), htext⟩
  · exact ⟨hkey "position" (by simp), hint _⟩
  · exact ⟨hkey "line" (by simp), hint _⟩
  · exact ⟨hkey "column" (by simp), hint _⟩

end Halves.AvoidPlain

namespace Service

/-! ### Sending -/

theorem Body.avoidPlain_halves (body : Text) : (Body.ofText body).halves.AvoidPlain := by
  have hcodes : ∀ codes, (Body.ofCodes codes).halves.AvoidPlain := by
    intro codes
    unfold Body.ofCodes
    simp only
    split <;> exact Halves.avoidPlain_among _
  unfold Body.ofText
  simp only
  split_ifs
  · exact Halves.AvoidPlain.empty
  · split
    · exact hcodes _
    · exact Halves.AvoidPlain.empty

namespace Response

variable {h : Halves}

/-- A result is sent if none of its texts holds a half. -/
theorem send_result {r : Response} (hstatus : r.status = 200) :
    ((∀ t ∈ r.texts, h.occurIn t = false) → r.send h = .ok r) ∧
      ((∃ t ∈ r.texts, h.occurIn t = true) → ∃ run, r.send h = .error (.resultHalves run)) := by
  rw [send, if_pos hstatus]
  constructor
  · intro htexts
    have hnone : r.texts.findSome? (h.firstRun? 0) = none :=
      List.findSome?_eq_none_iff.mpr fun t ht => Halves.firstRun?_eq_none_iff.mpr (htexts t ht)
    rw [hnone]
  · rintro ⟨t, ht, hoccur⟩
    cases hrun : r.texts.findSome? (h.firstRun? 0) with
    | some run => exact ⟨run, rfl⟩
    | none =>
      have hclean := Halves.firstRun?_eq_none_iff.mp (List.findSome?_eq_none_iff.mp hrun t ht)
      rw [hoccur] at hclean
      cases hclean

/-- A refusal with finite numbers in it is sent if it holds no half as a whole. -/
theorem send_refusal (havoid : h.AvoidPlain) {status : Nat} (hstatus : status ≠ 200) {detail : Json}
    (hfinite : detail.isFinite = true) :
    (h.occurIn detail.render = false →
      (refusal status detail).send h = .ok (refusal status detail)) ∧
      ((refusal status detail).send h = .ok (refusal status detail) ∨
        ∃ run, (refusal status detail).send h = .error (.halves run)) := by
  have hbody : (refusal status detail).body.isFinite = true := by
    simp [refusal, Json.isFinite, Json.haveFiniteValues, hfinite]
  have hstatus : ¬ (refusal status detail).status = 200 := hstatus
  rw [send, if_neg hstatus, if_pos hbody]
  constructor
  · intro hclean
    have hrender : h.occurIn (refusal status detail).body.render = false := by
      refine havoid.occurIn_render_object fun field hfield => ?_
      rw [List.mem_singleton.mp hfield]
      exact ⟨havoid.occurIn_of_isPlain (t := "detail".toList) (by decide), hclean⟩
    rw [Halves.firstRun?_eq_none_iff.mpr hrender]
  · cases h.firstRun? 0 (refusal status detail).body.render with
    | none => exact .inl rfl
    | some run => exact .inr ⟨run, rfl⟩

end Response

/-! ### Requests that reached an endpoint -/

theorem respond_post {endpoint : Endpoint} (h : endpoint = .compile ∨ endpoint = .format)
    (body : Text) :
    respond "POST".toList endpoint.path body =
      (endpoint.respond (Body.ofText body)).bind (·.send (Body.ofText body).halves) := by
  have hcapitals : "POST".toList.flatMap capitals = "POST".toList := by decide
  have hhead : "POST".toList ≠ "HEAD".toList := by decide
  obtain ⟨address, haddress, hpath⟩ : ∃ address,
      Address.ofText endpoint.path = .ok address ∧ address.path = .ok endpoint.path := by
    rcases h with rfl | rfl <;>
      exact ⟨_, by with_unfolding_all rfl, by with_unfolding_all rfl⟩
  have hroute : route "POST".toList endpoint.path (Body.ofText body) =
      endpoint.respond (Body.ofText body) := by
    have hmethod : "POST".toList = endpoint.method := by rcases h with rfl | rfl <;> rfl
    have hofPath : Endpoint.ofPath? endpoint.path = some endpoint := by
      rcases h with rfl | rfl <;> with_unfolding_all rfl
    rw [route, hofPath]
    exact if_pos hmethod
  simp only [respond, haddress, hpath, hcapitals, hroute, Except.mapError, bind, Except.bind, hhead,
    if_false]
  cases endpoint.respond (Body.ofText body) with
  | error e => rfl
  | ok response =>
    simp only
    cases response.send (Body.ofText body).halves <;> rfl

theorem optional_readSize_eq_ok {name : Text} {fields : List (Text × Json)} {n standard : Nat}
    (h : fields.lookup name = some (.int n) ∨ fields.lookup name = none ∧ n = standard)
    (halves : Halves) :
    optional name (readSize halves) standard (.object fields) = .ok n := by
  rcases h with hlookup | ⟨hlookup, rfl⟩
  · simp only [optional, Json.field?, hlookup]
    rfl
  · simp only [optional, Json.field?, hlookup]

/-- A request passes if its source is a text, its sizes are integers that are not negative, and its
target language is named, in capital letters or not. All but the source may be missing. -/
theorem CompileRequest.ofBody_eq_ok {body : Body} {fields : List (Text × Json)} {r : CompileRequest}
    (hcontent : body.content = .value (.object fields))
    (hsource : fields.lookup "source".toList = some (.text r.source))
    (hpre : fields.lookup "pre".toList = some (.int r.pre) ∨
      fields.lookup "pre".toList = none ∧ r.pre = 0)
    (hpost : fields.lookup "post".toList = some (.int r.post) ∨
      fields.lookup "post".toList = none ∧ r.post = defaultLength)
    (htarget : (∃ name, fields.lookup "backend".toList = some (.text name) ∧
      name.map Char.toLower = r.target.name) ∨ fields.lookup "backend".toList = none) :
    CompileRequest.ofBody body = .ok r := by
  obtain ⟨source, pre, post, target⟩ := r
  cases target
  have hsource' : required "source".toList readText (.object fields) = .ok source := by
    simp only [required, Json.field?, hsource]
    rfl
  have hpre' := optional_readSize_eq_ok hpre body.halves
  have hpost' := optional_readSize_eq_ok hpost body.halves
  have htarget' : optional "backend".toList readTarget Target.c99 (.object fields) = .ok .c99 := by
    rcases htarget with ⟨name, hlookup, hname⟩ | htarget
    · have hread : readTarget (.text name) = .ok .c99 := by
        simp only [readTarget, readText, bind, Except.bind, hname]
        rfl
      simp only [optional, Json.field?, hlookup, hread]
      rfl
    · simp only [optional, Json.field?, htarget]
  have hobject : CompileRequest.ofObject body.halves (.object fields) =
      .ok ⟨source, pre, post, .c99⟩ := by
    simp only [CompileRequest.ofObject, hsource', hpre', hpost', htarget']
  simp only [CompileRequest.ofBody, bodyObject, hcontent, bind, Except.bind, hobject]
  rfl

/-- What comes of a refusal that shows a text: it is sent, unless the text holds half of a surrogate
pair and stops it. -/
def IsRefused (h : Halves) (t : Text) (detail : Json) (outcome : Except Failure Response) : Prop :=
  (h.occurIn t = false → outcome = .ok (.refusal 422 detail)) ∧
    (outcome = .ok (.refusal 422 detail) ∨ ∃ run, outcome = .error (.halves run))

/-- What comes of a result that shows a text: it is sent, unless the text holds half of a surrogate
pair. -/
def IsAnswered (h : Halves) (t : Text) (response : Response) (outcome : Except Failure Response) :
    Prop :=
  (h.occurIn t = false → outcome = .ok response) ∧
    (h.occurIn t = true → ∃ run, outcome = .error (.resultHalves run))

theorem isRefused_syntaxError {h : Halves} (havoid : h.AvoidPlain) {source : Text} {e : SyntaxError}
    (rejected : parse source = .error e) :
    IsRefused h e.remaining (syntaxErrorDetail e)
      ((Response.refusal 422 (syntaxErrorDetail e)).send h) := by
  have hfinite : (syntaxErrorDetail e).isFinite = true := rfl
  have hstatus : 422 ≠ 200 := by decide
  have hsend := Response.send_refusal havoid hstatus hfinite
  exact ⟨fun hclean => hsend.1 (havoid.occurIn_render_detail rejected hclean), hsend.2⟩

/-- The texts in the answer with code are plain, apart from the code. -/
theorem isAnswered_compiled {h : Halves} (havoid : h.AvoidPlain) (o : Options) (indent : Text)
    (program : Program) :
    IsAnswered h (o.code indent program).text
      (compiled o.target program (o.code indent program))
      ((compiled o.target program (o.code indent program)).send h) := by
  obtain ⟨pre, post, target, pos_cells⟩ := o
  cases target
  generalize hcode : Options.code _ indent program = code
  have hextension : h.occurIn code.extension = false := by
    rw [← hcode, Options.code_eq]
    exact havoid.occurIn_of_isPlain (t := C.extension) (by decide)
  have hname : h.occurIn Target.c99.name = false := havoid.occurIn_of_isPlain (by decide)
  obtain ⟨hsent, hstopped⟩ := Response.send_result (h := h) (r := compiled .c99 program code) rfl
  have htexts : (compiled .c99 program code).texts =
      [code.text, code.extension, Target.c99.name] := rfl
  rw [htexts] at hsent hstopped
  refine ⟨fun hclean => hsent ?_, fun hoccur => hstopped ⟨_, List.mem_cons_self, hoccur⟩⟩
  simp [hclean, hextension, hname]

/-- A printed program is the only text in the answer that holds it. -/
theorem isAnswered_formatted (h : Halves) (t : Text) :
    IsAnswered h t ⟨200, .object [("formatted".toList, .text t)]⟩
      ((⟨200, .object [("formatted".toList, .text t)]⟩ : Response).send h) := by
  obtain ⟨hsent, hstopped⟩ := Response.send_result (h := h)
    (r := ⟨200, .object [("formatted".toList, .text t)]⟩) rfl
  have htexts : (⟨200, .object [("formatted".toList, .text t)]⟩ : Response).texts = [t] := rfl
  rw [htexts] at hsent hstopped
  refine ⟨fun hclean => hsent ?_, fun hoccur => hstopped ⟨t, List.mem_cons_self, hoccur⟩⟩
  simpa using hclean

/-! ### Requests in order -/

section

variable {body : Text}

theorem respond_of_compileRequest {r : CompileRequest}
    (valid : CompileRequest.ofBody (Body.ofText body) = .ok r) :
    respond "POST".toList "/api/compile".toList body =
      (Service.compile r).bind (·.send (Body.ofText body).halves) := by
  have hpost := respond_post (.inl rfl) body
  rw [Endpoint.respond, valid] at hpost
  exact hpost

theorem respond_of_formatRequest {r : FormatRequest}
    (valid : FormatRequest.ofBody (Body.ofText body) = .ok r) :
    respond "POST".toList "/api/format".toList body =
      (Service.format r).send (Body.ofText body).halves := by
  have hpost := respond_post (.inr rfl) body
  rw [Endpoint.respond, valid] at hpost
  exact hpost

/-- A tape without cells is always reported, and a number of cells that cannot be written is always
in the way of an answer. The details of a syntax error, or the code, are sent unless a half occurs
in what they show. -/
theorem respond_compile {r : CompileRequest}
    (valid : CompileRequest.ofBody (Body.ofText body) = .ok r) :
    (r.pre + r.post = 0 → respond "POST".toList "/api/compile".toList body =
      .ok (.refusal 422 (.text Options.Fault.noCells.message))) ∧
    (0 < r.pre + r.post → ∀ e, parse r.source = .error e →
      IsRefused (Body.ofText body).halves e.remaining (syntaxErrorDetail e)
        (respond "POST".toList "/api/compile".toList body)) ∧
    ∀ hcells : 0 < r.pre + r.post, ∀ program, parse r.source = .ok program →
      (Tape.isWritable (r.pre + r.post) = false →
        respond "POST".toList "/api/compile".toList body = .error .unwritable) ∧
      (Tape.isWritable (r.pre + r.post) = true →
        IsAnswered (Body.ofText body).halves
          ((r.checkedOptions hcells).code Indentation.standard program).text
          (compiled r.target program ((r.checkedOptions hcells).code Indentation.standard program))
          (respond "POST".toList "/api/compile".toList body)) := by
  have havoid := Body.avoidPlain_halves body
  rw [respond_of_compileRequest valid]
  generalize (Body.ofText body).halves = halves at havoid
  refine ⟨fun hnone => ?_, fun hcells e rejected => ?_, fun hcells program accepted =>
    ⟨fun hlong => ?_, fun hwritable => ?_⟩⟩
  · have hmessage : halves.occurIn (Json.text Options.Fault.noCells.message).render = false := by
      rw [Json.render]
      exact havoid.occurIn_quoted (havoid.occurIn_of_isPlain (by decide))
    rw [CompileRequest.compile_of_no_cells hnone]
    exact (Response.send_refusal havoid (by decide) rfl).1 hmessage
  · rw [CompileRequest.compile_of_rejected hcells rejected]
    exact isRefused_syntaxError havoid rejected
  · rw [CompileRequest.compile_of_not_isWritable hcells accepted hlong]
    rfl
  · rw [CompileRequest.compile_of_accepted hcells accepted hwritable]
    exact isAnswered_compiled havoid (r.checkedOptions hcells) Indentation.standard program

/-- The details of a syntax error, or the printed program, are sent unless a half occurs in what
they show. -/
theorem respond_format {r : FormatRequest}
    (valid : FormatRequest.ofBody (Body.ofText body) = .ok r) :
    (∀ e, parse r.source = .error e →
      IsRefused (Body.ofText body).halves e.remaining (syntaxErrorDetail e)
        (respond "POST".toList "/api/format".toList body)) ∧
    ∀ t, TapeCompiler.format r.source = .ok t →
      IsAnswered (Body.ofText body).halves t ⟨200, .object [("formatted".toList, .text t)]⟩
        (respond "POST".toList "/api/format".toList body) := by
  rw [respond_of_formatRequest valid]
  refine ⟨fun e rejected => ?_, fun t formatted => ?_⟩
  · rw [FormatRequest.format_of_rejected rejected]
    exact isRefused_syntaxError (Body.avoidPlain_halves body) rejected
  · rw [FormatRequest.format_of_formatted formatted]
    exact isAnswered_formatted _ t

end

end Service

end TapeCompiler
