import TapeCompiler.Program.Assembly
import TapeCompiler.Proofs.Program.Tree

/-!
# What a program under construction holds

While a program is put together, the tokens taken in so far can be told from its open blocks: every
token is added at the end. Conversely the tokens of a block, taken in one after another, put
exactly that block behind what was there. A block is therefore determined by its tokens.

## Main definitions

* `Assembly.tokens` — the tokens taken in so far
* `Assembly.place?`, `Assembly.takeIn?` — take in a token, and a row of tokens
* `Assembly.anonymous` — forgets what is known of the open brackets

## Main results

* `Assembly.tokens_of_place?` — a token is added at the end
* `Assembly.suffix_frames_of_place?` — the brackets that are open behind a token
* `Assembly.takeIn?_tokens` — the tokens of a block put that block together
* `Block.tokens_injective` — a block is determined by its tokens
-/

namespace TapeCompiler

variable {ι α : Type}

namespace Assembly

/-- The same program under construction, with nothing known of its open brackets. -/
def anonymous (a : Assembly ι α) : Assembly Unit α where
  block := a.block
  frames := a.frames.map fun frame => ⟨(), frame.before⟩

/-- The tokens taken in so far, from the first on. -/
def tokens (a : Assembly ι α) : List (Token α) :=
  a.frames.reverse.flatMap (fun frame => Block.tokens frame.before.reverse ++ [.opening]) ++
    Block.tokens a.block.reverse

/-- Takes in a token, of which the given is known if it is an opening bracket. -/
def place? (bracket : ι) (a : Assembly ι α) : Token α → Option (Assembly ι α)
  | .leaf leaf => some (a.add leaf)
  | .opening => some (a.enter bracket)
  | .closing => a.leave?

/-- Takes in a row of tokens, if no bracket is closed that was not opened. -/
def takeIn? (a : Assembly Unit α) (ts : List (Token α)) : Option (Assembly Unit α) :=
  ts.foldlM token? a

/-! ### Forgetting the brackets -/

@[simp] theorem anonymous_block (a : Assembly ι α) : a.anonymous.block = a.block := rfl

theorem leave?_anonymous (a : Assembly ι α) : a.anonymous.leave? = a.leave?.map anonymous := by
  obtain ⟨block, frames⟩ := a
  cases frames <;> rfl

theorem token?_anonymous (bracket : ι) (a : Assembly ι α) (t : Token α) :
    a.anonymous.token? t = (a.place? bracket t).map anonymous := by
  cases t with
  | leaf leaf => rfl
  | opening => rfl
  | closing => exact leave?_anonymous a

theorem frames_anonymous_eq_nil {a : Assembly ι α} : a.anonymous.frames = [] ↔ a.frames = [] := by
  simp [anonymous]

/-! ### One token -/

@[simp] theorem tokens_add (leaf : α) (a : Assembly ι α) :
    (a.add leaf).tokens = a.tokens ++ [.leaf leaf] := by
  simp [add, addNode, tokens, Block.tokens_append]

@[simp] theorem tokens_enter (bracket : ι) (a : Assembly ι α) :
    (a.enter bracket).tokens = a.tokens ++ [.opening] := by
  simp [enter, tokens]

theorem tokens_of_leave? {a b : Assembly ι α} (h : a.leave? = some b) :
    b.tokens = a.tokens ++ [.closing] := by
  obtain ⟨block, frames⟩ := a
  cases frames with
  | nil => simp [leave?] at h
  | cons frame frames =>
    -- The block becomes the body of a loop behind what stood in front of the bracket.
    cases h
    simp [tokens, Block.tokens_append]

theorem tokens_of_place? {bracket : ι} {a b : Assembly ι α} {t : Token α}
    (h : a.place? bracket t = some b) : b.tokens = a.tokens ++ [t] := by
  cases t with
  | leaf leaf =>
    cases h
    simp
  | opening =>
    cases h
    simp
  | closing => exact tokens_of_leave? h

/-- An open bracket was open before the last token, or it is that token. -/
theorem suffix_frames_of_place? {bracket : ι} {a b : Assembly ι α} {t : Token α}
    (h : a.place? bracket t = some b) {frame : Frame ι α} {outer : List (Frame ι α)}
    (hsuffix : frame :: outer <:+ b.frames) :
    frame :: outer <:+ a.frames ∨
      t = .opening ∧ frame :: outer = ⟨bracket, a.block⟩ :: a.frames := by
  cases t with
  | leaf leaf =>
    cases h
    exact .inl hsuffix
  | opening =>
    cases h
    exact (List.suffix_cons_iff.mp hsuffix).symm.imp_right fun heq => ⟨rfl, heq⟩
  | closing =>
    obtain ⟨block, frames⟩ := a
    cases frames with
    | nil => cases h
    | cons last frames =>
      cases h
      exact .inl (hsuffix.trans (List.suffix_cons last frames))

/-- An open bracket stands in front of those around it. -/
theorem exists_suffix_of_mem {frames : List (Frame ι α)} {frame : Frame ι α}
    (h : frame ∈ frames) : ∃ outer, frame :: outer <:+ frames := by
  obtain ⟨inner, outer, hframes⟩ := List.append_of_mem h
  exact ⟨outer, inner, hframes.symm⟩

/-- A bracket that is open was open before the last token, or it is that token. -/
theorem mem_frames_of_place? {bracket : ι} {a b : Assembly ι α} {t : Token α}
    (h : a.place? bracket t = some b) {frame : Frame ι α} (hframe : frame ∈ b.frames) :
    frame ∈ a.frames ∨ frame.bracket = bracket := by
  obtain ⟨outer, hframes⟩ := exists_suffix_of_mem hframe
  rcases suffix_frames_of_place? h hframes with hsuffix | ⟨-, heq⟩
  · exact .inl (hsuffix.subset List.mem_cons_self)
  · cases heq
    exact .inr rfl

/-! ### Rows of tokens -/

@[simp] theorem takeIn?_nil (a : Assembly Unit α) : a.takeIn? [] = some a := rfl

@[simp] theorem takeIn?_cons (a : Assembly Unit α) (t : Token α) (ts : List (Token α)) :
    a.takeIn? (t :: ts) = (a.token? t).bind (·.takeIn? ts) := rfl

theorem takeIn?_append (a : Assembly Unit α) (ts us : List (Token α)) :
    a.takeIn? (ts ++ us) = (a.takeIn? ts).bind (·.takeIn? us) := by
  simp only [takeIn?, List.foldlM_append]
  rfl

/-- Taking in the tokens of a block puts its statements behind those that were there before. -/
theorem takeIn?_tokens (block : Block α) (a : Assembly Unit α) :
    a.takeIn? block.tokens = some { a with block := block.reverse ++ a.block } := by
  induction block using Block.tree_induction generalizing a with
  | nil => simp
  | leaf leaf rest ih => simp [token?, ih, add, addNode]
  | loop body rest ih_body ih_rest =>
    rw [Block.tokens_loop, takeIn?_append, takeIn?_cons]
    -- The body is taken in inside a frame of its own, in front of an empty block.
    simp [token?, enter, leave?, ih_body, ih_rest]

/-! ### The end -/

/-- A program is finished when no bracket is open any more. -/
theorem finish_eq_ok_iff {a : Assembly ι α} {program : Block α} :
    a.finish = .ok program ↔ a.frames = [] ∧ a.block.reverse = program := by
  obtain ⟨block, frames⟩ := a
  cases frames with
  | nil => simp [finish]
  | cons frame frames =>
    -- There is an outermost bracket, and its place is reported.
    have h : (frame :: frames).getLast? ≠ none := by simp
    cases hlast : (frame :: frames).getLast? with
    | none => exact absurd hlast h
    | some last => simp [finish, hlast]

theorem tokens_of_finish {a : Assembly ι α} {program : Block α} (h : a.finish = .ok program) :
    a.tokens = program.tokens := by
  obtain ⟨hframes, hblock⟩ := finish_eq_ok_iff.mp h
  simp [tokens, hframes, hblock]

end Assembly

namespace Block

theorem ofTokens?_tokens (block : Block α) : ofTokens? block.tokens = some block := by
  have h := Assembly.takeIn?_tokens block ({} : Assembly Unit α)
  rw [Assembly.takeIn?] at h
  simp [ofTokens?, h, Assembly.finish, Except.toOption]

theorem tokens_injective : Function.Injective (tokens (α := α)) := by
  intro block other h
  have := congrArg ofTokens? h
  simpa only [ofTokens?_tokens, Option.some_inj] using this

end Block

end TapeCompiler
