import TapeCompiler.Code.C
import TapeCompiler.Code.Generation
import TapeCompiler.Proofs.Program.Tree

/-!
# Writing out a program by recursion

A program can be written out by recursion on its tree: a leaf at the depth where it stands, and a
loop as its first lines, its body one level deeper, and its last lines. Emission does not do so. It
walks through the program with a stack of its own, and counts the depth up and down on the way.

Still it does the same for every backend, whatever the backend refuses. Nothing that was written
before is touched, and at the end of a block the depth is that of its beginning. The first piece of
the program that is refused, in the order of the recursion, ends the emission, and all pieces in
front of it are written.

A piece can also be refused because there is no margin for it: a text cannot be repeated as often as
a depth says if the depth does not fit into a word.

## Main definitions

* `Writing` — lines that are written, and how that ends
* `Piece`, `Backend.put` — lines that stand together at a depth, and what is written of them
* `Backend.emitAt` — writing out a block by recursion
* `Backend.pieces` — the pieces of a block, in the order of the recursion

## Main results

* `Backend.emits_emitVisits` — the walk does what the recursion does
* `Backend.emitAt_eq_putAll` — the recursion writes piece by piece
* `Backend.emitBlock_eq_emitAt` — both, for programs with foreign statements
* `Backend.not_forall_emitBlock_eq_ok` — a piece that no backend refuses, and no margin for it
-/

namespace TapeCompiler

variable {α ε : Type}

/-! ### What is written -/

/-- Lines that are written, and how the writing ends. -/
abbrev Writing (ε : Type) := List Text × Except ε Unit

/-- Writes on, unless the writing has ended with a fault. -/
def Writing.andThen : Writing ε → Writing ε → Writing ε
  | (lines, .ok ()), next => (lines ++ next.1, next.2)
  | (lines, .error e), _ => (lines, .error e)

theorem Writing.andThen_assoc (first second third : Writing ε) :
    (first.andThen second).andThen third = first.andThen (second.andThen third) := by
  obtain ⟨lines, _ | ⟨⟩⟩ := first
  · rfl
  · obtain ⟨others, _ | ⟨⟩⟩ := second
    · rfl
    · simp [andThen]

/-- Lines that are to be written at a depth, unless they are refused. -/
structure Piece (ε : Type) where
  /-- The depth. -/
  depth : Int
  /-- The lines, without a margin. -/
  lines : Except ε (List Text)

namespace Backend

/-- What is written of a piece: its lines, each behind the margin of the depth unless it is
empty. -/
def put (b : Backend α ε) (p : Piece ε) : Writing ε :=
  match p.lines with
  | .error e => ([], .error e)
  | .ok lines =>
    match b.indentation.margin p.depth with
    | .error e => ([], .error e)
    | .ok (.ok margin) => (lines.map (Lines.indented margin), .ok ())
    | .ok (.error e) =>
      (lines.takeWhile (· = []), if lines.all (· = []) then .ok () else .error e)

/-- What is written of several pieces, one after another. -/
def putAll (b : Backend α ε) (pieces : List (Piece ε)) : Writing ε :=
  pieces.foldr (fun p next => (b.put p).andThen next) ([], .ok ())

/-- Writes out a block by recursion, at a depth. -/
def emitAt (b : Backend α ε) (depth : Int) : Block α → Writing ε
  | [] => ([], .ok ())
  | .leaf a :: rest => (b.put ⟨depth, b.leaf a⟩).andThen (emitAt b depth rest)
  | .loop body :: rest =>
    (b.put ⟨depth, b.loopOpening⟩).andThen
      ((emitAt b (depth + 1) body).andThen
        ((b.put ⟨depth, b.loopEnding⟩).andThen (emitAt b depth rest)))

/-- The pieces of a block, in the order of the recursion. -/
def pieces (b : Backend α ε) (depth : Int) : Block α → List (Piece ε)
  | [] => []
  | .leaf a :: rest => ⟨depth, b.leaf a⟩ :: pieces b depth rest
  | .loop body :: rest =>
    ⟨depth, b.loopOpening⟩ :: (pieces b (depth + 1) body ++
      ⟨depth, b.loopEnding⟩ :: pieces b depth rest)

/-! ### Piece by piece -/

section

variable (b : Backend α ε)

theorem putAll_cons (p : Piece ε) (ps : List (Piece ε)) :
    b.putAll (p :: ps) = (b.put p).andThen (b.putAll ps) := rfl

theorem putAll_append (ps qs : List (Piece ε)) :
    b.putAll (ps ++ qs) = (b.putAll ps).andThen (b.putAll qs) := by
  induction ps with
  | nil => simp [putAll, Writing.andThen]
  | cons p ps ih => rw [List.cons_append, putAll_cons, ih, putAll_cons, Writing.andThen_assoc]

/-- The recursion writes piece by piece. -/
theorem emitAt_eq_putAll (block : Block α) (depth : Int) :
    b.emitAt depth block = b.putAll (b.pieces depth block) := by
  induction block using Block.tree_induction generalizing depth with
  | nil => rw [emitAt, pieces, putAll, List.foldr_nil]
  | leaf a rest ih => rw [emitAt, pieces, putAll_cons, ih]
  | loop body rest ih_body ih_rest =>
    rw [emitAt, pieces, putAll_cons, putAll_append, putAll_cons, ih_body, ih_rest]

variable {b}

/-- If no piece is refused, all are written. -/
theorem putAll_eq_of_forall {ps : List (Piece ε)} (h : ∀ p ∈ ps, (b.put p).2 = .ok ()) :
    b.putAll ps = (ps.flatMap fun p => (b.put p).1, .ok ()) := by
  induction ps with
  | nil => rfl
  | cons p ps ih =>
    have hp : b.put p = ((b.put p).1, .ok ()) := Prod.ext rfl (h p (by simp))
    rw [putAll_cons, hp, ih fun q hq => h q (by simp [hq])]
    simp [Writing.andThen]

/-- The first piece that is refused ends the writing. -/
theorem putAll_eq_of_error {before : List (Piece ε)} {p : Piece ε} {e : ε}
    (hbefore : ∀ q ∈ before, (b.put q).2 = .ok ()) (hp : (b.put p).2 = .error e)
    (after : List (Piece ε)) :
    b.putAll (before ++ p :: after) =
      ((before.flatMap fun q => (b.put q).1) ++ (b.put p).1, .error e) := by
  have hrefused : b.put p = ((b.put p).1, .error e) := Prod.ext rfl hp
  rw [putAll_append, putAll_eq_of_forall hbefore, putAll_cons, hrefused]
  simp [Writing.andThen]

end

/-! ### The walk -/

/-- An emission from a state writes what it should behind the lines that are there, and comes to a
certain depth unless it is refused. -/
structure Emits (s : Lines) (w : Writing ε) (depth : Int) (done : Lines × Except ε Unit) :
    Prop where
  /-- The lines are added at the end. -/
  written : done.1.written = s.written ++ w.1
  /-- The end is the same. -/
  ending : done.2 = w.2
  /-- This is the depth at the end. -/
  depth : done.2 = .ok () → done.1.depth = depth

/-- Two emissions, one after another. -/
theorem Emits.andThen {s : Lines} {w v : Writing ε} {middle depth : Int}
    {done : Lines × Except ε Unit} {next : Lines → Lines × Except ε Unit} :
    Emits s w middle done → (∀ t : Lines, t.depth = middle → Emits t v depth (next t)) →
      Emits s (w.andThen v) depth
        (match done with
        | (t, .ok ()) => next t
        | refused => refused) := by
  rintro ⟨hwritten, hending, hdepth⟩ hnext
  obtain ⟨lines, ending⟩ := w
  obtain ⟨t, outcome⟩ := done
  simp only at hwritten hending hdepth
  subst hending
  cases outcome with
  | error e => exact ⟨hwritten, rfl, nofun⟩
  | ok _ =>
    -- The second emission starts at the depth to which the first one came.
    obtain ⟨hwritten', hending', hdepth'⟩ := hnext t (hdepth rfl)
    refine ⟨?_, hending', hdepth'⟩
    rw [hwritten', hwritten]
    apply Array.toList_inj.mp
    simp [Writing.andThen]

section

variable (b : Backend α ε)

theorem emits_writeAll (lines : Except ε (List Text)) (s : Lines) :
    Emits s (b.put ⟨s.depth, lines⟩) s.depth (b.writeAll lines s) := by
  cases lines with
  | error e => exact ⟨by simp [writeAll, put], rfl, nofun⟩
  | ok lines =>
    rcases hmargin : b.indentation.margin s.depth with e | (e | margin)
    · exact ⟨by simp [writeAll, put, hmargin], by simp [writeAll, put, hmargin],
        by simp [writeAll, hmargin]⟩
    · refine ⟨?_, by simp only [writeAll, put, hmargin], by simp [writeAll, hmargin, Lines.write]⟩
      -- The lines that are written in spite of the missing margin are empty.
      have hempty : (lines.takeWhile (· = [])).map (Lines.indented []) =
          lines.takeWhile (· = []) := by
        refine (List.map_congr_left fun line hline => ?_).trans (List.map_id _)
        have hnil : line = [] := by
          simpa using List.all_eq_true.mp List.all_takeWhile line hline
        simp [Lines.indented, hnil]
      simp only [writeAll, put, hmargin, Lines.write, hempty]
    · exact ⟨by simp [writeAll, put, hmargin, Lines.write], by simp [writeAll, put, hmargin],
        by simp [writeAll, hmargin, Lines.write]⟩

theorem emits_enter (body : Block α) (s : Lines) :
    Emits s (b.put ⟨s.depth, b.loopOpening⟩) (s.depth + 1) (b.emitVisit s (.enter body)) := by
  have hopening := b.emits_writeAll b.loopOpening s
  rw [emitVisit]
  generalize b.writeAll b.loopOpening s = done at hopening ⊢
  obtain ⟨t, outcome⟩ := done
  obtain ⟨hwritten, hending, hdepth⟩ := hopening
  cases outcome with
  | error e => exact ⟨hwritten, hending, nofun⟩
  | ok _ => exact ⟨hwritten, hending, fun _ => congrArg (· + 1) (hdepth rfl)⟩

theorem emits_leave {depth : Int} {s : Lines} (h : s.depth = depth + 1) :
    Emits s (b.put ⟨depth, b.loopEnding⟩) depth (b.emitVisit s .leave) := by
  -- The depth is counted down before the lines are written.
  have hdepth : (s.deepen (-1)).depth = depth := by
    simp only [Lines.deepen, h]
    omega
  obtain ⟨hwritten, hending, hback⟩ := b.emits_writeAll b.loopEnding (s.deepen (-1))
  rw [hdepth] at hwritten hending hback
  exact ⟨hwritten, hending, hback⟩

theorem emitVisits_append (s : Lines) (visits others : List (Visit α)) :
    b.emitVisits s (visits ++ others) =
      match b.emitVisits s visits with
      | (s, .ok ()) => b.emitVisits s others
      | refused => refused := by
  induction visits generalizing s with
  | nil => rfl
  | cons v visits ih =>
    rw [List.cons_append, emitVisits, emitVisits]
    obtain ⟨t, _ | ⟨⟩⟩ := b.emitVisit s v
    · rfl
    · exact ih t

/-- The walk through a block does what the recursion does, and comes back to the depth from which
it started. -/
theorem emits_emitVisits (block : Block α) (s : Lines) :
    Emits s (b.emitAt s.depth block) s.depth (b.emitVisits s block.visits) := by
  induction block using Block.tree_induction generalizing s with
  | nil =>
    rw [Block.visits_nil, emitVisits, emitAt]
    exact ⟨by simp, rfl, fun _ => rfl⟩
  | leaf a rest ih =>
    rw [Block.visits_leaf, emitVisits, emitAt]
    exact (b.emits_writeAll (b.leaf a) s).andThen fun t ht => ht ▸ ih t
  | loop body rest ih_body ih_rest =>
    rw [Block.visits_loop, List.cons_append, emitVisits, emitAt]
    refine (b.emits_enter body s).andThen fun t ht => ?_
    rw [emitVisits_append]
    refine Emits.andThen (ht ▸ ih_body t) fun u hu => ?_
    rw [emitVisits]
    exact (b.emits_leave hu).andThen fun v hv => hv ▸ ih_rest v

end

/-- A program is written out as by recursion, whatever was written before, at whatever depth it
starts, and whatever is refused. If no piece is refused, all of them are written, and the depth is
what it was. Otherwise the fault is that of the first piece that is refused, be it by the backend,
as a foreign statement or for want of a margin, and all pieces in front of it are written. -/
theorem emitBlock_eq_emitAt (b : Backend Instruction ε) (draft : Draft) (s : Lines) :
    Emits s (b.items.emitAt s.depth draft) s.depth (b.items.emitBlock draft s) ∧
      ((∀ p ∈ b.items.pieces s.depth draft, (b.items.put p).2 = .ok ()) →
        b.items.emitBlock draft s =
          (⟨s.written ++ (b.items.pieces s.depth draft).flatMap fun p => (b.items.put p).1,
            s.depth⟩, .ok ())) ∧
      ∀ before p after e, b.items.pieces s.depth draft = before ++ p :: after →
        (∀ q ∈ before, (b.items.put q).2 = .ok ()) → (b.items.put p).2 = .error e →
        (b.items.emitBlock draft s).2 = .error e ∧
          (b.items.emitBlock draft s).1.written =
            s.written ++ ((before.flatMap fun q => (b.items.put q).1) ++ (b.items.put p).1) := by
  have hemits := b.items.emits_emitVisits draft s
  rw [← emitBlock] at hemits
  refine ⟨hemits, fun hall => ?_, fun before p after e hpieces hbefore hp => ?_⟩
  · rw [emitAt_eq_putAll, putAll_eq_of_forall hall] at hemits
    obtain ⟨hwritten, hending, hdepth⟩ := hemits
    generalize b.items.emitBlock draft s = done at hwritten hending hdepth ⊢
    rw [← hwritten, ← hdepth hending]
    exact Prod.ext rfl hending
  · obtain ⟨hwritten, hending, -⟩ := hemits
    rw [emitAt_eq_putAll, hpieces, putAll_eq_of_error hbefore hp] at hwritten hending
    exact ⟨hending, hwritten⟩

/-- Behind an earlier line, a loop with a foreign statement in it is written up to that
statement. -/
theorem emitBlock_eq_emitAt_foreign :
    let b : Backend Instruction Empty := C.backend (.ofText ['\t'])
    let done := b.items.emitBlock
      [.loop [.leaf (.instr .output), .leaf (.foreign 7)], .leaf (.instr .input)]
      ⟨#["//".toList], -1⟩
    done.2 = .error (.foreign 7) ∧
      done.1.written = #["//".toList, "while (*ptr) \x7b".toList, "putchar(*ptr);".toList] := by
  intro b done
  let draft : Draft := [.loop [.leaf (.instr .output), .leaf (.foreign 7)], .leaf (.instr .input)]
  let before : List (Piece (Item.Fault Empty)) :=
    [⟨-1, .ok [C.loopOpening]⟩, ⟨0, .ok ["putchar(*ptr);".toList]⟩]
  have hpieces : b.items.pieces (-1) draft = before ++ ⟨0, .error (.foreign 7)⟩ ::
      [⟨-1, .ok [C.loopEnding]⟩, ⟨-1, .ok ["*ptr = getchar();".toList]⟩] := by
    simp only [draft, pieces]
    rfl
  have hbefore : ∀ q ∈ before, (b.items.put q).2 = .ok () := by
    simp only [before, List.forall_mem_cons]
    exact ⟨rfl, rfl, by simp⟩
  obtain ⟨-, -, hfirst⟩ := b.emitBlock_eq_emitAt draft ⟨#["//".toList], -1⟩
  obtain ⟨hending, hwritten⟩ := hfirst _ _ _ _ hpieces hbefore rfl
  exact ⟨hending, hwritten⟩

/-- Nothing is refused at a depth that does not fit into a word, and still nothing is written there,
not even with no indentation at all. -/
theorem not_forall_emitBlock_eq_ok :
    ¬ ∀ (level : Text) (draft : Draft) (s : Lines),
      (∀ p ∈ (C.backend (.limited (.text level))).items.pieces s.depth draft,
        ∃ lines, p.lines = .ok lines) →
      ((C.backend (.limited (.text level))).items.emitBlock draft s).2 = .ok () := by
  intro h
  have hok := h [] [.leaf (.instr .output)] { depth := 9223372036854775808 } (by
    simp only [pieces, List.forall_mem_cons]
    exact ⟨⟨_, rfl⟩, by simp⟩)
  rw [emitBlock, Block.visits_leaf, Block.visits_nil] at hok
  cases hok

end Backend

end TapeCompiler
