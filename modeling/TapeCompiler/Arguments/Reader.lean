import TapeCompiler.Arguments.Word

/-!
# Reading command lines

The classified words are read from left to right. A flag takes its value from its own word or from
the operand behind it; flags with one letter that take no value can share a word. The first operand
that no flag takes is the operand of the command. Values are checked as they are met. When the end
is reached, a missing operand is reported before words that mean nothing, and a request for help
ends the reading at once.

Words that are shared are read as in argparse (releases 3.11.0 to 3.11.8): all that stands behind
the letter of a flag with a value is its value, an equals sign included, and a letter that is no
flag is a fault of the flag in front of it. Later releases drop the equals sign, and count the
letter among the words that mean nothing.

## Main definitions

* `Arguments.Outcome` — what comes of a command line
* `Command.read` — reads a command line
-/

namespace TapeCompiler

namespace Arguments

variable {σ : Type}

/-- What comes of a command line that is not refused. -/
inductive Outcome (σ : Type) where
  /-- Help was asked for. -/
  | help
  /-- This was set. -/
  | set (s : σ)

/-- Whether the operand of the command was met. -/
inductive OperandStatus where
  /-- It was not met yet. -/
  | awaited
  /-- It was the last word. -/
  | justMet
  /-- It was met, or there is none. -/
  | closed
deriving DecidableEq

/-- The state of the reading. -/
structure Reading (σ : Type) where
  /-- What was set. -/
  result : σ
  /-- Whether the operand was met. -/
  status : OperandStatus
  /-- The words that mean nothing, the latest first. -/
  extras : List Text := []

/-- The flags in a word: those that take no value, and the last one with its value. -/
structure Bundle (σ : Type) where
  /-- The flags before the last one. -/
  first : List (Flag σ)
  /-- The last flag. -/
  last : Flag σ
  /-- The value of the last flag, if it stands in the same word. -/
  value : Option Text

/-- Whether the value of the last flag has to be the word behind it. -/
def Bundle.needsWord (b : Bundle σ) : Bool :=
  b.last.takesValue && b.value.isNone

/-- The flags in a word that starts with a flag and goes on with `rest`. Behind a flag with a long
name there are no others. -/
def bundle (c : Command σ) (f : Flag σ) (short : Bool) (rest : Text) : Except Fault (Bundle σ) :=
  if f.takesValue then .ok ⟨[], f, some rest⟩
  else
    match rest with
    | [] => .error (.ignoredValue f.title rest)
    | letter :: others =>
      match if short then c.flag? ['-', letter] else none with
      | none => .error (.ignoredValue f.title rest)
      | some next =>
        if others = [] then .ok ⟨[f], next, none⟩
        else do
          let b ← bundle c next short others
          return { b with first := f :: b.first }

/-- The flags in a word under the name of the first. -/
def bundleOf (c : Command σ) (f : Flag σ) (name : Text) : Option Text → Except Fault (Bundle σ)
  | none => .ok ⟨[], f, none⟩
  | some rest => bundle c f (! dashes.isPrefixOf name) rest

/-- The value that a word is, unless it consists of two dashes. -/
def valueOf (t : Text) : Option Text :=
  if t = dashes then none else some t

/-- What a flag does, with the value `value` if it takes one. -/
def apply (f : Flag σ) (value : Text) (s : σ) : Except Fault (Outcome σ) :=
  match f.effect with
  | .help => .ok .help
  | .switch set => .ok (.set (set s))
  | .value read set =>
    ((read (valueOf value)).mapError (.badValue f.title)).map fun v => .set (set v s)

/-- What several flags without values do, one after another. -/
def applyAll : List (Flag σ) → σ → Except Fault (Outcome σ)
  | [], s => .ok (.set s)
  | f :: rest, s => do
    match ← apply f [] s with
    | .help => return .help
    | .set s => applyAll rest s

/-- What the flags of a word do. -/
def applyBundle (b : Bundle σ) (value : Text) (s : σ) : Except Fault (Outcome σ) := do
  match ← applyAll b.first s with
  | .help => return .help
  | .set s => apply b.last value s

namespace Reading

/-- Behind any word but the operand of the command. -/
def pass (r : Reading σ) : Reading σ :=
  { r with status := if r.status = .justMet then .closed else r.status }

/-- A word that means nothing. -/
def extra (t : Text) (r : Reading σ) : Reading σ :=
  { r.pass with extras := t :: r.extras }

/-- An operand that no flag takes. -/
def operand (c : Command σ) (t : Text) (r : Reading σ) : Reading σ :=
  match r.status, c.operand with
  | .awaited, some o => { r with result := o.set t r.result, status := .justMet }
  | _, _ => r.extra t

/-- The two dashes. They are a word that means nothing unless the operand stands beside them. -/
def separator (r : Reading σ) : Reading σ :=
  if r.status = .closed then r.extra dashes else r

/-- The end of the command line. -/
def finish (c : Command σ) (r : Reading σ) : Except Fault (Outcome σ) :=
  match r.status, c.operand with
  | .awaited, some o => .error (.missingOperand o.name)
  | _, _ =>
    if r.extras = [] then .ok (.set r.result) else .error (.unrecognized r.extras.reverse)

/-- Reads classified words. -/
def run (c : Command σ) (r : Reading σ) : List (Word σ) → Except Fault (Outcome σ)
  | [] => r.finish c
  | .operand t :: rest => run c (r.operand c t) rest
  | .separator :: rest => run c r.separator rest
  | .unknown t :: rest => run c (r.extra t) rest
  | .flag f name value :: rest => do
    let b ← bundleOf c f name value
    if b.needsWord then
      match rest with
      | .operand t :: rest =>
        match ← applyBundle b t r.result with
        | .help => return .help
        | .set result => run c { r.pass with result } rest
      | _ => throw (.missingValue b.last.title)
    else
      match ← applyBundle b (b.value.getD []) r.result with
      | .help => return .help
      | .set result => run c { r.pass with result } rest

end Reading

end Arguments

/-- Reads a command line, from what is set before anything is read. -/
def Command.read {σ : Type} (c : Command σ) (standard : σ) (line : List Text) :
    Except Arguments.Fault (Arguments.Outcome σ) := do
  let words ← Arguments.words c line
  Arguments.Reading.run c
    { result := standard, status := if c.operand.isSome then .awaited else .closed } words

end TapeCompiler
