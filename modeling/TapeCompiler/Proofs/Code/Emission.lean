import Mathlib.Tactic.SplitIfs
import TapeCompiler.Compile
import TapeCompiler.Proofs.Program.Tree
import TapeCompiler.Proofs.Text.Numeral

/-!
# What the compiler writes

Nothing is refused when a program is written out in C with an indentation that is a text. The lines
of the program are then those of its tokens, one after another, at a depth that is counted up and
down by the brackets alone.

A source is compiled in two steps that can fail: it has to hold a program, and the number of all
cells has to be writable.

## Main definitions

* `Token.lines` — the lines of a row of tokens, from a depth on
* `C.lines` — the same for the instructions of a program, in C
* `Options.vast` — options with too many cells

## Main results

* `Backend.emitVisits_eq` — emission writes the lines of the tokens
* `Options.code_eq` — the code of a program
* `Options.compile_eq` — what comes of compiling a source
* `Options.compile_vast` — a tape for which no source is compiled
-/

namespace TapeCompiler

variable {α ε : Type}

namespace Token

/-- The depth behind a token, for the depth in front of it. -/
def depthBehind (depth : Int) : Token α → Int
  | .leaf _ => depth
  | .opening => depth + 1
  | .closing => depth - 1

/-- The lines of a row of tokens, one token after another. The depth is counted up behind an opening
bracket and down in front of a closing one; `place` puts a line at a depth. -/
def lines (place : Int → Text → Text) (leaf : α → List Text) (opening closing : Text) :
    Int → List (Token α) → List Text
  | _, [] => []
  | depth, .leaf a :: rest =>
    (leaf a).map (place depth) ++ lines place leaf opening closing depth rest
  | depth, .opening :: rest =>
    place depth opening :: lines place leaf opening closing (depth + 1) rest
  | depth, .closing :: rest =>
    place (depth - 1) closing :: lines place leaf opening closing (depth - 1) rest

theorem lines_cons (place : Int → Text → Text) (leaf : α → List Text) (opening closing : Text)
    (depth : Int) (t : Token α) (rest : List (Token α)) :
    lines place leaf opening closing depth (t :: rest) =
      lines place leaf opening closing depth [t] ++
        lines place leaf opening closing (t.depthBehind depth) rest := by
  cases t <;> simp [lines, depthBehind]

/-- Behind the tokens of a whole block the depth is the same as in front of them. -/
theorem lines_tokens_append (place : Int → Text → Text) (leaf : α → List Text)
    (opening closing : Text) (block : Block α) (depth : Int) (rest : List (Token α)) :
    lines place leaf opening closing depth (block.tokens ++ rest) =
      lines place leaf opening closing depth block.tokens ++
        lines place leaf opening closing depth rest := by
  induction block using Block.tree_induction generalizing depth rest with
  | nil => simp [lines]
  | leaf a others ih => simp [lines, ih]
  | loop body others ih_body ih_others =>
    -- The body is one level deeper, and its closing bracket leads back.
    have hback : depth + 1 - 1 = depth := by omega
    simp only [Block.tokens_loop, List.cons_append, List.append_assoc, lines, ih_body, ih_others,
      hback]

theorem lines_loop (place : Int → Text → Text) (leaf : α → List Text) (opening closing : Text)
    (depth : Int) (body rest : Block α) :
    lines place leaf opening closing depth (Block.tokens (.loop body :: rest)) =
      place depth opening :: (lines place leaf opening closing (depth + 1) body.tokens ++
        place depth closing :: lines place leaf opening closing depth rest.tokens) := by
  have hback : depth + 1 - 1 = depth := by omega
  rw [Block.tokens_loop, List.cons_append, lines, lines_tokens_append, lines, hback]

end Token

/-! ### Emission -/

namespace Backend

section

variable {b : Backend α ε} {level opening ending : Text} {leaf : α → List Text}
  (hmargin : ∀ depth, b.indentation.margin depth = .ok (.ok (level.times depth)))
  (hopening : b.loopOpening = .ok [opening]) (hending : b.loopEnding = .ok [ending])
include hmargin hopening hending

/-- A step of the walk writes the lines of its token, unless its leaf is refused. -/
theorem emitVisit_eq {v : Visit α} (hleaf : ∀ a, v = .leaf a → b.leaf a = .ok (leaf a))
    (s : Lines) :
    b.emitVisit s v =
      (⟨s.written ++ Token.lines (fun depth => Lines.indented (level.times depth)) leaf opening
        ending s.depth [v.token], v.token.depthBehind s.depth⟩, .ok ()) := by
  cases v with
  | leaf a =>
    simp [emitVisit, writeAll, hleaf a rfl, hmargin, Lines.write, Token.lines, Visit.token,
      Token.depthBehind]
  | enter body =>
    simp [emitVisit, writeAll, hopening, hmargin, Lines.write, Lines.deepen, Token.lines,
      Visit.token, Token.depthBehind]
  | leave =>
    simp [emitVisit, writeAll, hending, hmargin, Lines.write, Lines.deepen, Token.lines,
      Visit.token, Token.depthBehind, Int.sub_eq_add_neg]

/-- A walk writes the lines of its tokens, whatever was written before, unless a leaf is refused. -/
theorem emitVisits_eq {visits : List (Visit α)}
    (hleaf : ∀ a, .leaf a ∈ visits → b.leaf a = .ok (leaf a)) (s : Lines) :
    b.emitVisits s visits =
      (⟨s.written ++ Token.lines (fun depth => Lines.indented (level.times depth)) leaf opening
        ending s.depth (visits.map Visit.token),
        (visits.map Visit.token).foldl Token.depthBehind s.depth⟩, .ok ()) := by
  induction visits generalizing s with
  | nil => simp [emitVisits, Token.lines]
  | cons v visits ih =>
    have hvisit := emitVisit_eq hmargin hopening hending
      (fun a ha => hleaf a (by simp [ha])) (v := v) s
    have hlines := Token.lines_cons (fun depth => Lines.indented (level.times depth)) leaf opening
      ending s.depth v.token (visits.map Visit.token)
    rw [emitVisits, hvisit]
    simp only [ih fun a ha => hleaf a (by simp [ha]), List.map_cons, List.foldl_cons, hlines,
      Prod.mk.injEq, Lines.mk.injEq, and_true]
    apply Array.toList_inj.mp
    simp

end

/-- A walk comes to its end only if no leaf is refused. -/
theorem exists_leaf_eq_ok {b : Backend α ε} {visits : List (Visit α)} {s next : Lines}
    (h : b.emitVisits s visits = (next, .ok ())) {a : α} (ha : .leaf a ∈ visits) :
    ∃ lines, b.leaf a = .ok lines := by
  induction visits generalizing s with
  | nil => cases ha
  | cons v visits ih =>
    rw [emitVisits] at h
    split at h
    · next mid hvisit =>
      rcases List.mem_cons.mp ha with rfl | ha
      · cases hlines : b.leaf a with
        | ok lines => exact ⟨lines, rfl⟩
        | error e =>
          rw [emitVisit, hlines] at hvisit
          cases (Prod.mk.inj hvisit).2
      · exact ih h ha
    · next refused hrefused =>
      rw [h] at hrefused
      exact absurd rfl (hrefused next)

/-- The code of a program of which nothing is refused. -/
theorem code_eq {b : Backend α ε} {program : Block α} {pre post : Nat}
    {opening ending : List Text} {s : Lines} (hopening : b.opening pre post = .ok opening)
    (hemit : b.emitVisits ⟨opening.toArray, b.bodyDepth⟩ program.visits = (s, .ok ()))
    (hending : b.ending = .ok ending) :
    b.code program pre post = .ok ⟨s.written.toList ++ ending, b.extension⟩ := by
  simp only [code, emitBlock, hopening, hemit, hending, bind, Except.bind]
  rfl

/-- All that a backend wrote for a program of which it refused nothing. -/
theorem of_code_eq_ok {b : Backend α ε} {program : Block α} {pre post : Nat} {code : Code}
    (h : b.code program pre post = .ok code) :
    ∃ opening ending s, b.opening pre post = .ok opening ∧
      b.emitVisits ⟨opening.toArray, b.bodyDepth⟩ program.visits = (s, .ok ()) ∧
      b.ending = .ok ending ∧ code = ⟨s.written.toList ++ ending, b.extension⟩ := by
  rw [Backend.code] at h
  cases hopening : b.opening pre post with
  | error e =>
    rw [hopening] at h
    cases h
  | ok opening =>
    rw [hopening] at h
    simp only [bind, Except.bind, emitBlock] at h
    split at h
    · cases h
    · next hemit =>
      cases hending : b.ending with
      | error e =>
        rw [hending] at h
        cases h
      | ok ending =>
        rw [hending] at h
        cases h
        exact ⟨opening, ending, _, rfl, Prod.ext rfl hemit, rfl, rfl⟩

end Backend

namespace C

/-- The lines of a row of tokens in C, from a depth on. -/
def lines (indent : Text) : Int → List (Token Instruction) → List Text :=
  Token.lines (fun depth => Lines.indented (indent.times depth)) statement loopOpening loopEnding

variable {ε : Type} (indent : Text)

theorem lines_cons (depth : Int) (t : Token Instruction) (rest : List (Token Instruction)) :
    lines indent depth (t :: rest) =
      lines indent depth [t] ++ lines indent (t.depthBehind depth) rest :=
  Token.lines_cons _ _ _ _ depth t rest

/-- All the code of a program in C. -/
theorem code_eq (program : Program) (pre post : Nat) :
    (backend (.ofText indent) : Backend Instruction ε).code program pre post =
      .ok ⟨opening indent pre post ++ lines indent 1 program.tokens ++ ending indent,
        extension⟩ := by
  have hmargin : ∀ depth,
      (backend (.ofText indent) : Backend Instruction ε).indentation.margin depth =
        .ok (.ok (indent.times depth)) := fun _ => rfl
  have hleaf : ∀ i, .leaf i ∈ program.visits →
      (backend (.ofText indent) : Backend Instruction ε).leaf i = .ok (statement i) :=
    fun _ _ => rfl
  have hemit := Backend.emitVisits_eq hmargin rfl rfl hleaf ⟨(opening indent pre post).toArray, 1⟩
  rw [Backend.code_eq (b := backend (.ofText indent)) rfl hemit rfl]
  simp [Block.tokens, backend, lines, Indentation.ofText]

end C

theorem mapError_ok {δ : Type} (f : ε → δ) (a : α) :
    (Except.ok a : Except ε α).mapError f = .ok a :=
  rfl

theorem mapError_error {δ : Type} (f : ε → δ) (e : ε) :
    (Except.error e : Except ε α).mapError f = .error (f e) :=
  rfl

theorem of_mapError_eq_ok {δ : Type} {f : ε → δ} {x : Except ε α} {a : α}
    (h : x.mapError f = .ok a) : x = .ok a := by
  cases x with
  | error e => cases h
  | ok b =>
    cases h
    rfl

/-- If the indentation can be written, too many cells are reported as such. -/
theorem Backend.unwritable_of_level {b : Backend α ε} {level : Text}
    (hlevel : b.indentation.level = .ok level) (pre : Nat) :
    b.unwritable pre = .tape .unwritable := by
  rw [unwritable, hlevel]

/-- Sizes that are in order are only refused if their sum has to be written and cannot be. -/
theorem Backend.generate_of_sizes {b : Backend α ε} (hwrites : b.writesCells = true)
    (program : Block α) (pre post : Nat) :
    b.generate program (.int pre) (.int post) =
      if Tape.isWritable (pre + post) then
        (b.code program pre post).mapError Generation.Fault.refused
      else .error (b.unwritable pre) := by
  have hpre : Tape.pre (.int pre) = .ok pre := rfl
  have hpost : Tape.post (.int post) = .ok post := rfl
  simp only [generate, hpre, hpost, mapError_ok, bind, Except.bind, hwrites, Bool.true_and]
  cases Tape.isWritable (pre + post) with
  | true => rfl
  | false => rfl

/-- What is generated for sizes that are in order is the code of the program for them. -/
theorem Backend.code_of_generate {b : Backend α ε} {program : Block α} {pre post : Nat}
    {code : Code} (h : b.generate program (.int pre) (.int post) = .ok code) :
    b.code program pre post = .ok code := by
  have hpre : Tape.pre (.int pre) = .ok pre := rfl
  have hpost : Tape.post (.int post) = .ok post := rfl
  simp only [generate, hpre, hpost, mapError_ok, bind, Except.bind] at h
  split_ifs at h
  exact of_mapError_eq_ok h

namespace Options

theorem code_eq (o : Options) (indent : Text) (program : Program) :
    o.code indent program =
      ⟨C.opening indent o.pre o.post ++ C.lines indent 1 program.tokens ++ C.ending indent,
        C.extension⟩ := by
  obtain ⟨pre, post, target, pos_cells⟩ := o
  cases target
  have h := C.code_eq (ε := Empty) indent program pre post
  simp only [code, Backend.sureCode, Target.backend]
  split
  next code hcode =>
    rw [h] at hcode
    exact (Except.ok.inj hcode).symm

/-- Under checked options, the sizes of the tape are in order, so that it is left to write them and
the program. -/
theorem compileProgram_settings (o : Options) (indent : Json) (program : Program) :
    (o.settings indent).compileProgram program =
      if Tape.isWritable (o.pre + o.post) then
        ((C.backend (.ofValue indent)).code program o.pre o.post).mapError .indentation
      else .error (.ofGeneration ((C.backend (.ofValue indent)).unwritable o.pre)) := by
  obtain ⟨pre, post, target, pos_cells⟩ := o
  cases target
  have hwrites : (C.backend (.ofValue indent)).writesCells = true := rfl
  simp only [Settings.compileProgram, settings, Target.backend, Backend.generate_of_sizes hwrites]
  cases Tape.isWritable (pre + post) with
  | true =>
    cases (C.backend (.ofValue indent)).code program pre post <;> rfl
  | false => rfl

theorem compile_settings (o : Options) (indent : Json) (source : Text) :
    (o.settings indent).compile source =
      match parse source with
      | .error e => .error (.syntaxError e)
      | .ok program => (o.settings indent).compileProgram program := by
  rw [Settings.compile]
  cases parse source <;> simp only [mapError_ok, mapError_error, bind, Except.bind]

/-- A program is compiled if the number of all cells can be written. -/
theorem compileProgram_eq (o : Options) (indent : Text) (program : Program) :
    (o.settings (.text indent)).compileProgram program =
      if Tape.isWritable (o.pre + o.post) then .ok (o.code indent program)
      else .error (.tape .unwritable) := by
  have hvalue : Indentation.ofValue (.text indent) = .ofText indent := rfl
  have hlevel : (C.backend (.ofText indent) : Backend Instruction Indentation.Fault).unwritable
      o.pre = .tape .unwritable := Backend.unwritable_of_level rfl o.pre
  rw [compileProgram_settings, hvalue, C.code_eq, mapError_ok, code_eq, hlevel]
  rfl

/-- A source is compiled if it holds a program and the number of all cells can be written. -/
theorem compile_eq (o : Options) (indent source : Text) :
    (o.settings (.text indent)).compile source =
      match parse source with
      | .error e => .error (.syntaxError e)
      | .ok program =>
        if Tape.isWritable (o.pre + o.post) then .ok (o.code indent program)
        else .error (.tape .unwritable) := by
  simp only [compile_settings, compileProgram_eq]

theorem compile_of_isWritable {o : Options} {source : Text} {program : Program}
    (accepted : parse source = .ok program) (writable : Tape.isWritable (o.pre + o.post) = true)
    (indent : Text) : (o.settings (.text indent)).compile source = .ok (o.code indent program) := by
  rw [compile_eq, accepted]
  exact if_pos writable

theorem compile_of_not_isWritable {o : Options} {source : Text} {program : Program}
    (accepted : parse source = .ok program) (unwritable : Tape.isWritable (o.pre + o.post) = false)
    (indent : Text) :
    (o.settings (.text indent)).compile source = .error (.tape .unwritable) := by
  rw [compile_eq, accepted]
  simp only [unwritable, Bool.false_eq_true, if_false]

/-! ### Too many cells -/

/-- The options for the smallest tape whose number of cells cannot be written. -/
def vast : Options where
  pre := Tape.tooLarge - 1
  post := 1
  pos_cells := Nat.add_pos_right (Tape.tooLarge - 1) Nat.one_pos

theorem isWritable_vast : Tape.isWritable (vast.pre + vast.post) = false := by
  have hpos : 0 < Tape.tooLarge := Numeral.tooLarge_pos
  have hpre : vast.pre = Tape.tooLarge - 1 := rfl
  have hpost : vast.post = 1 := rfl
  rw [hpre, hpost, Tape.isWritable, decide_eq_false_iff_not]
  omega

/-- Nothing is compiled for a tape with too many cells. -/
theorem compile_vast (indent : Text) {source : Text} {program : Program}
    (accepted : parse source = .ok program) :
    (vast.settings (.text indent)).compile source = .error (.tape .unwritable) :=
  compile_of_not_isWritable accepted isWritable_vast indent

end Options

end TapeCompiler
