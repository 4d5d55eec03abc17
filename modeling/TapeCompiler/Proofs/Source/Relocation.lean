import TapeCompiler.Proofs.Source.Row

/-!
# Reading the same text elsewhere

What a reader finds depends on the text behind its cursor only. If the same text stands at another
place, and behind other statements, it is read in the same way: the same steps are taken, every
place that is reported is moved like the text, and the program has the other statements in front.

Places are moved by a function on offsets. It may do with the places in front of the text what it
likes, as these are only remembered, but those from the cursor on it has to move by one distance.

## Main definitions

* `ShiftsFrom` — all places from a given one on are moved by the same distance
* `pushFrom` — the places of a text into which something is put
* `Assembly.relocate` — moves the open brackets, and puts statements in front
* `Reading.relocate` — the same for a reading, with its cursor

## Main results

* `Cursor.skipGap_relocate`, `Cursor.lexeme_relocate` — a gap and a lexeme at another place
* `Assembly.place?_relocate`, `Assembly.finish_relocate` — a token and the end behind other
  statements
* `Reading.step_relocate`, `Reading.run_relocate` — a step and a run at another place
-/

namespace TapeCompiler

/-- All places from the given one on are moved by the same distance. -/
def ShiftsFrom (f : Nat → Nat) (offset : Nat) : Prop :=
  ∀ n, f (offset + n) = f offset + n

theorem ShiftsFrom.add {f : Nat → Nat} {offset : Nat} (h : ShiftsFrom f offset) (n : Nat) :
    ShiftsFrom f (offset + n) := by
  intro m
  rw [Nat.add_assoc, h, h, Nat.add_assoc]

/-- The place of a character after some others are put in: those from `place` on are pushed back. -/
def pushFrom (place distance : Nat) (n : Nat) : Nat :=
  if n < place then n else n + distance

theorem pushFrom_of_lt {place n : Nat} (h : n < place) (distance : Nat) :
    pushFrom place distance n = n :=
  if_pos h

theorem pushFrom_self (place distance : Nat) : pushFrom place distance place = place + distance :=
  if_neg (Nat.lt_irrefl place)

theorem shiftsFrom_pushFrom (place distance : Nat) :
    ShiftsFrom (pushFrom place distance) place := by
  intro n
  rw [pushFrom_self, pushFrom, if_neg (by omega)]
  omega

/-! ### Programs under construction -/

namespace Assembly

variable {ι κ α : Type}

/-- The statements in front of a program, the latest first, as far as they belong to the block in
which the given brackets are open: all if it is the outermost block. -/
def share (front : List (Node α)) : List (Frame ι α) → List (Node α)
  | [] => front
  | _ :: _ => []

/-- The same open brackets, moved, with statements in front of the outermost. -/
def relocateFrames (f : ι → κ) (front : List (Node α)) : List (Frame ι α) → List (Frame κ α)
  | [] => []
  | frame :: frames =>
    ⟨f frame.bracket, frame.before ++ share front frames⟩ :: relocateFrames f front frames

/-- The same program under construction, with its open brackets moved and with statements, the
latest first, in front of it. -/
def relocate (f : ι → κ) (front : List (Node α)) (a : Assembly ι α) : Assembly κ α where
  block := a.block ++ share front a.frames
  frames := relocateFrames f front a.frames

variable {f : ι → κ} {front : List (Node α)}

theorem leave?_relocate (a : Assembly ι α) :
    (a.relocate f front).leave? = a.leave?.map (relocate f front) := by
  obtain ⟨block, frames⟩ := a
  cases frames with
  | nil => rfl
  | cons frame frames => simp [leave?, relocate, relocateFrames, share]

/-- A token is taken in behind other statements as it is without them. -/
theorem place?_relocate (bracket : ι) (a : Assembly ι α) (t : Token α) :
    (a.relocate f front).place? (f bracket) t = (a.place? bracket t).map (relocate f front) := by
  cases t with
  | leaf leaf => rfl
  | opening => rfl
  | closing => exact leave?_relocate a

theorem getLast?_relocateFrames (frames : List (Frame ι α)) :
    (relocateFrames f front frames).getLast?.map Frame.bracket =
      (frames.getLast?.map Frame.bracket).map f := by
  induction frames with
  | nil => rfl
  | cons frame frames ih =>
    cases frames with
    | nil => rfl
    | cons next frames => simpa only [relocateFrames, List.getLast?_cons_cons] using ih

/-- The program has the other statements in front, and an open bracket is the one that was moved. -/
theorem finish_relocate (a : Assembly ι α) :
    (a.relocate f front).finish = (a.finish.map (front.reverse ++ ·)).mapError f := by
  have hlast : (relocateFrames f front a.frames).getLast?.map Frame.bracket = _ :=
    getLast?_relocateFrames a.frames
  obtain ⟨block, frames⟩ := a
  cases frames with
  | nil =>
    have hreverse : (block ++ front).reverse = front.reverse ++ block.reverse :=
      List.reverse_append
    exact congrArg Except.ok hreverse
  | cons frame frames =>
    obtain ⟨last, hlast_frames⟩ := Option.isSome_iff_exists.mp
      (List.getLast?_isSome.mpr (List.cons_ne_nil frame frames))
    rw [hlast_frames] at hlast
    obtain ⟨moved, hmoved, hbracket⟩ := Option.map_eq_some_iff.mp hlast
    simp only [finish, relocate, hmoved, hlast_frames, hbracket]
    rfl

/-- Nothing changes if no statement is put in front and no open bracket is moved. -/
theorem relocate_eq_self {f : ι → ι} {a : Assembly ι α}
    (h : ∀ frame ∈ a.frames, f frame.bracket = frame.bracket) : a.relocate f [] = a := by
  have hshare : ∀ frames : List (Frame ι α), share [] frames = ([] : List (Node α)) := by
    intro frames
    cases frames <;> rfl
  have hframes : relocateFrames f [] a.frames = a.frames := by
    generalize a.frames = frames at h
    induction frames with
    | nil => rfl
    | cons frame frames ih =>
      obtain ⟨hframe, hframes⟩ := List.forall_mem_cons.mp h
      simp [relocateFrames, hshare, hframe, ih hframes]
  rw [relocate, hframes, hshare, List.append_nil]

end Assembly

/-! ### Cursors -/

/-- A cursor at another place, with the same text behind it. -/
def Cursor.relocate (f : Nat → Nat) (c : Cursor) : Cursor where
  offset := f c.offset
  rest := c.rest

/-- What stands at another place. -/
def Cursor.Lexeme.relocate (f : Nat → Nat) : Cursor.Lexeme → Cursor.Lexeme
  | none => none
  | token t behind => token t (behind.relocate f)
  | fault reason => fault reason

namespace Cursor

variable {f : Nat → Nat}

/-- A gap is the same at another place. -/
theorem skipGap_relocate (c : Cursor) (hf : ShiftsFrom f c.offset) :
    (c.relocate f).skipGap = c.skipGap.relocate f := by
  obtain ⟨gap, hgap, hrest, hoffset⟩ := exists_gap c
  rw [relocate, hrest, skipGap_append hgap, skipGap_of_settled (settled_skipGap c), relocate,
    hoffset, hf]

/-- A lexeme is the same at another place. -/
theorem lexeme_relocate (c : Cursor) (hf : ShiftsFrom f c.offset) :
    (c.relocate f).lexeme = c.lexeme.relocate f := by
  apply Finds.lexeme_eq
  have hfinds := finds_lexeme c
  generalize c.lexeme = lexeme at hfinds
  cases hfinds with
  | none => exact .none
  | word hword =>
    rw [relocate, Lexeme.relocate, relocate, hf]
    exact .word hword
  | unterminatedInsert hcolons => exact .unterminatedInsert hcolons
  | unterminatedComment => exact .unterminatedComment
  | unexpected hc hcolons => exact .unexpected hc hcolons

end Cursor

/-! ### Readings -/

/-- A fault at another place. -/
def Fault.relocate (f : Nat → Nat) (fault : Fault) : Fault where
  reason := fault.reason
  offset := f fault.offset

namespace Reading

/-- The end of a reading at another place, and behind other statements. -/
def Result.relocate (f : Nat → Nat) (front : Program) (result : Result) : Result where
  stop := result.stop.relocate f
  outcome := (result.outcome.map (front.reverse ++ ·)).mapError (Fault.relocate f)

/-- A reading of the same text at another place, and behind other statements. -/
def relocate (f : Nat → Nat) (front : Program) (r : Reading) : Reading where
  cursor := r.cursor.relocate f
  assembly := r.assembly.relocate f front

/-- A step at another place, and behind other statements. -/
def Step.relocate (f : Nat → Nat) (front : Program) : Step → Step
  | more r => more (r.relocate f front)
  | done result => done (result.relocate f front)

variable {f : Nat → Nat}

/-- A step does the same at another place and behind other statements. -/
theorem step_relocate (r : Reading) (hf : ShiftsFrom f r.cursor.offset) (front : Program) :
    (r.relocate f front).step = r.step.relocate f front := by
  have hskip : (r.relocate f front).cursor.skipGap = r.cursor.skipGap.relocate f :=
    r.cursor.skipGap_relocate hf
  have hlexeme : (r.relocate f front).cursor.skipGap.lexeme =
      r.cursor.skipGap.lexeme.relocate f := by
    obtain ⟨gap, -, -, hoffset⟩ := Cursor.exists_gap r.cursor
    rw [hskip, Cursor.lexeme_relocate _ (hoffset ▸ hf.add gap.length)]
  cases h : r.cursor.skipGap.lexeme with
  | none =>
    rw [h] at hlexeme
    have hfinish : (r.relocate f front).assembly.finish = _ := Assembly.finish_relocate r.assembly
    rw [step_of_none hlexeme, step_of_none h, hfinish, hskip]
    cases r.assembly.finish <;> rfl
  | token t behind =>
    rw [h] at hlexeme
    have hplace : (r.relocate f front).assembly.place? (f r.cursor.skipGap.offset) t = _ :=
      Assembly.place?_relocate r.cursor.skipGap.offset r.assembly t
    rw [step_of_token hlexeme, step_of_token h, hskip, Cursor.relocate, hplace]
    cases r.assembly.place? r.cursor.skipGap.offset t <;> rfl
  | fault reason =>
    rw [h] at hlexeme
    rw [step_of_fault hlexeme, step_of_fault h, hskip]
    rfl

/-- A run does the same at another place and behind other statements. -/
theorem run_relocate (r : Reading) (hf : ShiftsFrom f r.cursor.offset) (front : Program) :
    (r.relocate f front).run = r.run.relocate f front := by
  fun_induction run r with
  | case1 r next hstep ih =>
    have hmoved := step_relocate r hf front
    rw [hstep] at hmoved
    obtain ⟨gap, word, t, -, -, -, hoffset, -⟩ := of_step_more hstep
    rw [run_of_more hmoved]
    exact ih (hoffset ▸ (hf.add gap.length).add word.length)
  | case2 r result hstep =>
    have hmoved := step_relocate r hf front
    rw [hstep] at hmoved
    exact run_of_done hmoved

end Reading

end TapeCompiler
