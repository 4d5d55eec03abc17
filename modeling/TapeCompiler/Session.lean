import TapeCompiler.Compile

/-!
# Sessions

A session is one compiler in use: its settings, and the offset at which its last reading of a source
stopped.

## Main definitions

* `Session` — a compiler in use
* `Session.Step`, `Session.Answer` — what it can be asked, and what it answers
* `Session.step` — the session after a step, with the answer
* `Session.renew` — starts anew with other options
-/

namespace TapeCompiler

/-- A compiler in use. -/
structure Session where
  /-- The settings. -/
  settings : Settings
  /-- Where the last reading of a source stopped. -/
  stop : Option Nat := none

namespace Session

/-- What a compiler can be asked to do. -/
inductive Step where
  /-- To change a setting. -/
  | change (c : Settings.Change)
  /-- To read a source. -/
  | parse (source : Text)
  /-- To print the program of a source. -/
  | format (source : Text)
  /-- To compile a source. -/
  | compile (source : Text)

/-- What a compiler answers. -/
inductive Answer where
  /-- The settings after a change. -/
  | settings (s : Settings)
  /-- The program that was read. -/
  | program (p : Program)
  /-- The printed program. -/
  | formatted (t : Text)
  /-- The code of a source. -/
  | code (c : Code)
  /-- Why there is none of these. -/
  | fault (f : Compile.Fault)

/-- The session at the beginning, with settings that were checked. -/
def ofSettings (settings : Settings) : Session where
  settings

/-- The session at the beginning, if nothing is said of the options. -/
def standard : Session :=
  ofSettings (({} : Options).settings (.text Indentation.standard))

/-- A new session with the given options, if they are in order. Otherwise the session goes on as it
is. -/
def renew (u : Options.Unchecked) (s : Session) : Session × Except Options.Fault Settings :=
  match u.settings with
  | .ok settings => (ofSettings settings, .ok settings)
  | .error fault => (s, .error fault)

/-- Reads a source, and remembers where the reading stopped. -/
def read (s : Session) (source : Text) : Session × Except SyntaxError Program :=
  let result := Reading.ofSource source
  ({ s with stop := some result.stop.offset },
    result.outcome.mapError fun fault => { fault with source })

/-- The session after a step, with the answer. -/
def step (s : Session) : Step → Session × Answer
  | .change c =>
    let settings := s.settings.change c
    ({ s with settings }, .settings settings)
  | .parse source =>
    match s.read source with
    | (s, .ok program) => (s, .program program)
    | (s, .error e) => (s, .fault (.syntaxError e))
  | .format source =>
    match s.read source with
    | (s, .ok program) => (s, .formatted program.text)
    | (s, .error e) => (s, .fault (.syntaxError e))
  | .compile source =>
    match s.read source with
    | (s, .ok program) =>
      match s.settings.compileProgram program with
      | .ok code => (s, .code code)
      | .error fault => (s, .fault fault)
    | (s, .error e) => (s, .fault (.syntaxError e))

end Session

end TapeCompiler
