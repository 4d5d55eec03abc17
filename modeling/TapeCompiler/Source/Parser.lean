import TapeCompiler.Program.Assembly
import TapeCompiler.Source.Lexeme

/-!
# Reading programs

A source is read from left to right, lexeme by lexeme. The program is put together on the way, and
every bracket that is open is remembered with its offset. A closing bracket that closes nothing, and
a character that stands for nothing, stop the reading where they stand; of several loops that are
not closed the outermost is reported.

## Main definitions

* `Reading` — the state between two lexemes
* `Reading.step` — reads on over a gap and a lexeme
* `Reading.run` — reads on to the end or to the first fault
* `parse` — the program that a source holds
-/

namespace TapeCompiler

/-- The state of the reading between two lexemes: where it stands, and the program so far, whose
open brackets carry their offsets. -/
structure Reading where
  /-- The place up to which the source has been read. -/
  cursor : Cursor
  /-- The program so far. -/
  assembly : Assembly Nat Instruction := {}

/-- How the reading of a source ends. -/
structure Reading.Result where
  /-- The cursor where the reading stopped. -/
  stop : Cursor
  /-- The program, or what is wrong. -/
  outcome : Except Fault Program

/-- What comes of reading on over one lexeme. -/
inductive Reading.Step where
  /-- The reading goes on. -/
  | more (r : Reading)
  /-- The reading ends. -/
  | done (result : Reading.Result)

namespace Reading

/-- The reading of a source at its beginning. -/
def start (source : Text) : Reading where
  cursor := .start source

/-- Reads on over a gap and the lexeme behind it. -/
def step (r : Reading) : Step :=
  let c := r.cursor.skipGap
  match c.lexeme with
  | .token (.leaf i) behind => .more ⟨behind, r.assembly.add i⟩
  | .token .opening behind => .more ⟨behind, r.assembly.enter c.offset⟩
  | .token .closing behind =>
    match r.assembly.leave? with
    | some assembly => .more ⟨behind, assembly⟩
    | none => .done ⟨c, .error ⟨.unmatchedClose, c.offset⟩⟩
  | .fault reason => .done ⟨c, .error ⟨reason, c.offset⟩⟩
  | .none =>
    match r.assembly.finish with
    | .ok program => .done ⟨c, .ok program⟩
    | .error offset => .done ⟨c, .error ⟨.unterminatedLoop, offset⟩⟩

theorem length_rest_lt_of_step {r next : Reading} (h : r.step = .more next) :
    next.cursor.rest.length < r.cursor.rest.length := by
  have hgap := Cursor.length_rest_skipGap_le r.cursor
  simp only [step] at h
  split at h
  · rename_i hlexeme
    cases h
    exact Nat.lt_of_lt_of_le (Cursor.length_rest_lt_of_lexeme hlexeme) hgap
  · rename_i hlexeme
    cases h
    exact Nat.lt_of_lt_of_le (Cursor.length_rest_lt_of_lexeme hlexeme) hgap
  · rename_i hlexeme
    split at h
    · cases h
      exact Nat.lt_of_lt_of_le (Cursor.length_rest_lt_of_lexeme hlexeme) hgap
    · cases h
  · cases h
  · split at h <;> cases h

/-- Reads on to the end of the source or to the first fault. -/
def run (r : Reading) : Result :=
  match _ : r.step with
  | .more next => run next
  | .done result => result
termination_by r.cursor.rest.length
decreasing_by exact length_rest_lt_of_step ‹_›

/-- Reads a whole source. -/
def ofSource (source : Text) : Result :=
  (start source).run

end Reading

/-- The program that a source holds, or why it holds none. -/
def parse (source : Text) : Except SyntaxError Program :=
  (Reading.ofSource source).outcome.mapError fun fault => { fault with source }

end TapeCompiler
