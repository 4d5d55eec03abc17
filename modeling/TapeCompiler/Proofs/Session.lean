import TapeCompiler.Proofs.Source.Beginning
import TapeCompiler.Session

/-!
# Sessions without a past

A session keeps two things between its steps: settings, which only changes touch, and the offset at
which the last reading stopped, which no answer depends on. So every answer is the one of a new
compiler with the settings as they are, however the session came to them and whatever failed before.

The offset is left at the end of the source if a program was read or only closing brackets are
missing, and at the fault otherwise. It does not always lie at the offset that is reported: of
several loops that are not closed the outermost is reported, long after the reading has passed it.

## Main definitions

* `stopOffset` — where the reading of a source stops
* `Session.after` — the session after a row of steps
* `Session.Step.answer` — the answer to a step, told from the settings alone

## Main results

* `Reading.stop_ofSource` — the reading of a source stops there
* `Session.step_eq` — all that a step does
* `Session.step_after` — a step after any others
-/

namespace TapeCompiler

/-! ### Where a reading stops -/

/-- The offset at which the reading of a source stops. -/
def stopOffset (source : Text) : Nat :=
  match parse source with
  | .ok _ => source.length
  | .error e => if e.reason = .unterminatedLoop then source.length else e.offset

theorem Cursor.ne_unterminatedLoop_of_lexeme {c : Cursor} {reason : Reason}
    (h : c.lexeme = .fault reason) : reason ≠ .unterminatedLoop := by
  have hfinds := finds_lexeme c
  rw [h] at hfinds
  cases hfinds <;> simp

namespace Reading

/-- A reading stops at its fault, or at the end if no character is at fault. -/
theorem Follows.stop_of_step {source : Text} {r : Reading} {result : Result}
    (h : Follows source r) (hdone : r.step = .done result) :
    result.stop.offset = match result.outcome with
      | .ok _ => source.length
      | .error fault =>
        if fault.reason = .unterminatedLoop then source.length else fault.offset := by
  cases hlexeme : r.cursor.skipGap.lexeme with
  | none =>
    obtain ⟨gap, -, hrest, hoffset⟩ := Cursor.exists_gap r.cursor
    rw [Cursor.rest_of_lexeme_none hlexeme, List.append_nil] at hrest
    -- What is left is the gap, so the reader stands at the end behind it.
    have hend : r.cursor.skipGap.offset = source.length := by
      have hle := h.offset_le
      rw [hoffset, ← hrest, h.rest_eq, List.length_drop]
      omega
    rw [step_of_none hlexeme] at hdone
    split at hdone <;> cases hdone <;> simp [hend]
  | token t behind =>
    rw [step_of_token hlexeme] at hdone
    split at hdone <;> cases hdone
    simp
  | fault reason =>
    rw [step_of_fault hlexeme] at hdone
    cases hdone
    simp [Cursor.ne_unterminatedLoop_of_lexeme hlexeme]

theorem stop_ofSource (source : Text) : (ofSource source).stop.offset = stopOffset source := by
  obtain ⟨last, hfollows, hdone⟩ := (follows_start source).exists_done
  rw [ofSource, hfollows.stop_of_step hdone, stopOffset, parse, ofSource]
  cases (start source).run.outcome <;> rfl

end Reading

namespace Session

/-! ### One step -/

/-- The change that a step makes, if it makes one. -/
def Step.change? : Step → Option Settings.Change
  | .change c => some c
  | _ => none

/-- The source that a step reads, if it reads one. -/
def Step.source? : Step → Option Text
  | .change _ => none
  | .parse source => some source
  | .format source => some source
  | .compile source => some source

/-- What is answered if there is a result, and if there is a fault. -/
def Answer.ofExcept {α ε : Type} (result : α → Answer) (fault : ε → Compile.Fault) :
    Except ε α → Answer
  | .ok a => result a
  | .error e => .fault (fault e)

/-- The answer to a step under given settings. -/
def Step.answer (settings : Settings) : Step → Answer
  | .change c => .settings (settings.change c)
  | .parse source => .ofExcept .program .syntaxError (TapeCompiler.parse source)
  | .format source => .ofExcept .formatted .syntaxError (TapeCompiler.format source)
  | .compile source => .ofExcept .code id (settings.compile source)

theorem read_eq (s : Session) (source : Text) :
    s.read source = ({ s with stop := some (stopOffset source) }, TapeCompiler.parse source) := by
  rw [read, Reading.stop_ofSource]
  rfl

/-- A step changes the settings or moves the reader, and answers from the settings alone. -/
theorem step_eq (s : Session) (step : Step) :
    s.step step =
      (⟨(step.change?.map s.settings.change).getD s.settings,
        (step.source?.map stopOffset).or s.stop⟩, step.answer s.settings) := by
  cases step with
  | change c => rfl
  | parse source =>
    simp only [Session.step, read_eq, Step.answer]
    cases TapeCompiler.parse source <;> rfl
  | format source =>
    simp only [Session.step, read_eq, Step.answer, TapeCompiler.format]
    cases TapeCompiler.parse source <;> rfl
  | compile source =>
    simp only [Session.step, read_eq, Step.answer, Settings.compile]
    cases TapeCompiler.parse source with
    | error e => rfl
    | ok program =>
      -- The program is at hand, so what is left is its code.
      have hcode : (do
          let program ← (Except.ok program : Except SyntaxError Program).mapError
            Compile.Fault.syntaxError
          s.settings.compileProgram program) = s.settings.compileProgram program := rfl
      simp only [hcode]
      cases s.settings.compileProgram program <;> rfl

/-! ### Many steps -/

/-- The session after a row of steps. -/
def after (s : Session) (steps : List Step) : Session :=
  steps.foldl (fun s step => (s.step step).1) s

theorem settings_after (s : Session) (steps : List Step) :
    (s.after steps).settings = (steps.filterMap Step.change?).foldl Settings.change s.settings := by
  induction steps generalizing s with
  | nil => rfl
  | cons step steps ih =>
    have htail : s.after (step :: steps) = (s.step step).1.after steps := rfl
    rw [htail, ih, step_eq]
    cases hchange : step.change? with
    | none => simp [hchange]
    | some c => simp [hchange]

/-- After any steps, a step is answered as by a new compiler with the settings that the changes
among them have led to, and as the settings and its source alone tell. A source that is no program
is reported as such, whatever the settings are, and the reader stops where the source alone says. -/
theorem step_after (settings : Settings) (steps : List Step) (step : Step) :
    let s := (ofSettings settings).after steps
    let current := (steps.filterMap Step.change?).foldl Settings.change settings
    (s.step step).2 = ((ofSettings current).step step).2 ∧
      (s.step step).2 = step.answer current ∧
      (∀ source e, step = .compile source → TapeCompiler.parse source = .error e →
        (s.step step).2 = .fault (.syntaxError e)) ∧
      ∀ source, step.source? = some source → (s.step step).1.stop = some (stopOffset source) := by
  intro s current
  have hsettings : s.settings = current := settings_after (ofSettings settings) steps
  have hanswer : (s.step step).2 = step.answer current := by
    rw [step_eq, hsettings]
  have hnew : ((ofSettings current).step step).2 = step.answer current := by
    rw [step_eq]
    rfl
  refine ⟨hanswer.trans hnew.symm, hanswer, ?_, ?_⟩
  · rintro source e rfl rejected
    rw [hanswer]
    simp only [Step.answer, Settings.compile, rejected]
    rfl
  · intro source hsource
    simp [step_eq, hsource]

/-- Neither the settings, of which two are of no use, nor the fault before keep a compiler from the
next source, which is read to its end although the fault is at its beginning. -/
theorem step_after_faults :
    let s := (ofSettings (({} : Options).settings (.text Indentation.standard))).after
      [.compile "+".toList, .change (.target (.text "c99".toList)), .parse "::".toList,
        .change (.pre .null)]
    TapeCompiler.parse "[[-]".toList = .error ⟨⟨.unterminatedLoop, 0⟩, "[[-]".toList⟩ ∧
      (s.step (.compile "[[-]".toList)).2 =
        .fault (.syntaxError ⟨⟨.unterminatedLoop, 0⟩, "[[-]".toList⟩) ∧
      (s.step (.compile "[[-]".toList)).1.stop = some 4 := by
  have rejected :
      TapeCompiler.parse "[[-]".toList = .error ⟨⟨.unterminatedLoop, 0⟩, "[[-]".toList⟩ := by
    with_unfolding_all rfl
  have hstop : stopOffset "[[-]".toList = 4 := by
    rw [stopOffset, rejected]
    rfl
  obtain ⟨-, -, hfault, hread⟩ := step_after (({} : Options).settings (.text Indentation.standard))
    [.compile "+".toList, .change (.target (.text "c99".toList)), .parse "::".toList,
      .change (.pre .null)] (.compile "[[-]".toList)
  rw [← hstop]
  exact ⟨rejected, hfault _ _ rfl rejected, hread _ rfl⟩

end Session

end TapeCompiler
