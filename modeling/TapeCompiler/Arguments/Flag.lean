import TapeCompiler.Json.Basic
import TapeCompiler.Text.IntegerLiteral

/-!
# Flags of a command line

A command has flags, each with one or more names, and may take one operand, a word that is not a
flag. A flag asks for help, switches something on, or sets a value. What the flags and the operand
set is kept in a state of the type `σ`.

The conventions are those of argparse (releases 3.11.0 to 3.11.8). In these a value that consists of
two dashes is no value: nothing remains of it, and an empty list stands in its place. Later releases
keep it.

## Main definitions

* `Flag`, `Command` — what a command line can hold
* `Arguments.Fault`, `Arguments.Fault.message` — why a command line is refused, and the wording
* `Arguments.integer`, `Arguments.choice`, `Arguments.any` — what a value can be
-/

namespace TapeCompiler

namespace Arguments

/-- Why a value is refused. -/
inductive ValueFault where
  /-- The value is not an integer. -/
  | notInteger (value : Text)
  /-- The value is none of the choices. -/
  | notChoice (value : Text) (choices : List Text)

/-- The wording for a value that is refused. -/
def ValueFault.message : ValueFault → Text
  | notInteger value => "invalid int value: ".toList ++ Quoted.ofText value
  | notChoice value choices =>
    "invalid choice: ".toList ++ Quoted.ofText value ++ " (choose from ".toList
      ++ Text.join ", ".toList (choices.map Quoted.ofText) ++ [')']

/-- Why a command line is refused. -/
inductive Fault where
  /-- The word can stand for several flags. -/
  | ambiguous (word : Text) (names : List Text)
  /-- The flag takes no value. -/
  | ignoredValue (flag : Text) (value : Text)
  /-- The flag needs a value. -/
  | missingValue (flag : Text)
  /-- The value of the flag is refused. -/
  | badValue (flag : Text) (fault : ValueFault)
  /-- The operand is missing. -/
  | missingOperand (name : Text)
  /-- There are words that mean nothing. -/
  | unrecognized (words : List Text)

/-- The wording for a command line that is refused. -/
def Fault.message : Fault → Text
  | ambiguous word names =>
    "ambiguous option: ".toList ++ word ++ " could match ".toList ++ Text.join ", ".toList names
  | ignoredValue flag value =>
    "argument ".toList ++ flag ++ ": ignored explicit argument ".toList ++ Quoted.ofText value
  | missingValue flag => "argument ".toList ++ flag ++ ": expected one argument".toList
  | badValue flag fault => "argument ".toList ++ flag ++ ": ".toList ++ fault.message
  | missingOperand name => "the following arguments are required: ".toList ++ name
  | unrecognized words => "unrecognized arguments: ".toList ++ Text.join [' '] words

/-! ### Values -/

/-- Any value is taken as it is. -/
def any : Option Text → Except ValueFault Json
  | some t => .ok (.text t)
  | none => .ok (.array [])

/-- The value has to be an integer. -/
def integer : Option Text → Except ValueFault Json
  | some t =>
    match IntegerLiteral.read? t with
    | some n => .ok (.int n)
    | none => .error (.notInteger t)
  | none => .ok (.array [])

/-- The value has to be one of several. -/
def choice (choices : List Text) : Option Text → Except ValueFault Json
  | some t => if t ∈ choices then .ok (.text t) else .error (.notChoice t choices)
  | none => .ok (.array [])

end Arguments

/-- What a flag does. -/
inductive Flag.Effect (σ : Type) where
  /-- It asks for help. -/
  | help
  /-- It switches something on. -/
  | switch (set : σ → σ)
  /-- It sets a value that is read in a certain way. -/
  | value (read : Option Text → Except Arguments.ValueFault Json) (set : Json → σ → σ)

/-- A flag. -/
structure Flag (σ : Type) where
  /-- The names, each with its dashes. -/
  names : List Text
  /-- What it does. -/
  effect : Flag.Effect σ

namespace Flag

variable {σ : Type}

/-- All names of a flag, as messages show them. -/
def title (f : Flag σ) : Text :=
  Text.join ['/'] f.names

/-- Whether a flag takes a value. -/
def takesValue (f : Flag σ) : Bool :=
  match f.effect with
  | .value _ _ => true
  | _ => false

end Flag

/-- An operand of a command. -/
structure Operand (σ : Type) where
  /-- The name, as messages show it. -/
  name : Text
  /-- What it sets. -/
  set : Text → σ → σ

/-- What a command line can hold. -/
structure Command (σ : Type) where
  /-- The flags. -/
  flags : List (Flag σ)
  /-- The operand that has to be given, if there is one. -/
  operand : Option (Operand σ)
  /-- How the command is called. -/
  usage : Text
  /-- What stands behind that in the help. -/
  details : Text

namespace Command

variable {σ : Type}

/-- The names of all flags, each with its flag. -/
def namedFlags (c : Command σ) : List (Text × Flag σ) :=
  c.flags.flatMap fun f => f.names.map fun name => (name, f)

/-- The flag with a name. -/
def flag? (c : Command σ) (name : Text) : Option (Flag σ) :=
  c.namedFlags.lookup name

/-- The help. -/
def help (c : Command σ) : Text :=
  c.usage ++ c.details

/-- What is written for a command line that is refused. -/
def complaint (c : Command σ) (fault : Arguments.Fault) : Text :=
  c.usage ++ "bfc: error: ".toList ++ fault.message ++ ['\n']

end Command

end TapeCompiler
