import TapeCompiler.Arguments.Flag

/-!
# Words of a command line

Before a command line is read, each of its words is classified. Two dashes separate flags from
operands; behind them every word is an operand. In front of them a word with a dash and something
behind it is a flag: by its exact name, by its name and a value behind an equals sign, by an
unambiguous beginning of a long name, or by a one-letter name with a value directly behind it. A
word that looks like a negative number, or has a space in it, is an operand if it is none of these.
So it is in argparse (releases 3.11.0 to 3.11.8), where an equals sign counts only behind a name
that starts the word: it belongs to the value if there are other letters in front of it.

## Main definitions

* `Arguments.Word` — the classes of words
* `Arguments.words` — classifies the words of a command line
-/

namespace TapeCompiler.Arguments

variable {σ : Type}

/-- A classified word. -/
inductive Word (σ : Type) where
  /-- An operand. -/
  | operand (t : Text)
  /-- The two dashes. -/
  | separator
  /-- A flag under one of its names, with the value in the same word. -/
  | flag (f : Flag σ) (name : Text) (value : Option Text)
  /-- Something like a flag that the command does not have. -/
  | unknown (t : Text)

/-- The two dashes behind which there are no flags. -/
def dashes : Text := ['-', '-']

/-- A word up to its first equals sign, and what stands behind that. -/
def splitValue (t : Text) : Text × Option Text :=
  match t.dropWhile (· ≠ '=') with
  | _ :: value => (t.takeWhile (· ≠ '='), some value)
  | [] => (t, none)

/-- Whether a text is a row of decimal digits of any script, and nothing else but a line break at
its end. -/
def isDigits (t : Text) : Bool :=
  let rest := t.dropWhile fun c => (DecimalDigit.value? c).isSome
  t.head?.any (fun c => (DecimalDigit.value? c).isSome) && (rest = [] || rest = ['\n'])

/-- Whether a word looks like a negative number: a dash, and digits with at most one point, which
has digits behind it. -/
def isNegativeNumber : Text → Bool
  | '-' :: t =>
    isDigits t ||
      match t.dropWhile fun c => (DecimalDigit.value? c).isSome with
      | '.' :: fraction => isDigits fraction
      | _ => false
  | _ => false

/-- The flags for which a word can stand that is not the exact name of one, each with the name and
with the value in the word. -/
def candidates (c : Command σ) (t : Text) : List (Flag σ × Text × Option Text) :=
  if dashes.isPrefixOf t then
    let (beginning, value) := splitValue t
    (c.namedFlags.filter fun (name, _) => beginning.isPrefixOf name).map fun (name, f) =>
      (f, name, value)
  else
    (c.namedFlags.filter fun (name, _) => name = t.take 2).map fun (name, f) =>
      (f, name, some (t.drop 2))

/-- Classifies a word that starts with a dash and has something behind it. -/
def dashed (c : Command σ) (t : Text) : Except Fault (Word σ) :=
  match c.flag? t with
  | some f => .ok (.flag f t none)
  | none =>
    let (name, value) := splitValue t
    match c.flag? name, value with
    | some f, some value => .ok (.flag f name (some value))
    | _, _ =>
      match candidates c t with
      | [] => .ok (if isNegativeNumber t || t.contains ' ' then .operand t else .unknown t)
      | [(f, name, value)] => .ok (.flag f name value)
      | several => .error (.ambiguous t (several.map fun (_, name, _) => name))

/-- Classifies a word in front of the two dashes. -/
def word (c : Command σ) (t : Text) : Except Fault (Word σ) :=
  match t with
  | '-' :: _ :: _ => dashed c t
  | _ => .ok (.operand t)

/-- Classifies the words of a command line. -/
def words (c : Command σ) : List Text → Except Fault (List (Word σ))
  | [] => .ok []
  | t :: rest =>
    if t = dashes then .ok (.separator :: rest.map .operand)
    else do
      let first ← word c t
      let others ← words c rest
      return first :: others

end TapeCompiler.Arguments
