import TapeCompiler.Code.C
import TapeCompiler.Code.Generation

/-!
# Target languages

The languages into which programs can be translated, by name.

## Main definitions

* `Target` — a target language
* `Target.backend` — its backend
* `Draft.generate` — the code of a draft for a target that is given by name
-/

namespace TapeCompiler

/-- A target language. -/
inductive Target where
  /-- The language C in its version of 1999. -/
  | c99
deriving DecidableEq, Repr

namespace Target

/-- All target languages. -/
def all : List Target := [c99]

/-- The name of a target language. -/
def name : Target → Text
  | c99 => "c99".toList

/-- The names of all target languages, as a message lists them. -/
def names : Text :=
  Text.join ", ".toList (all.map name)

/-- The target language with a given name. -/
def ofName? (t : Text) : Option Target :=
  all.find? fun target => target.name = t

/-- The target language that an unchecked value names. -/
def ofValue? : Json → Option Target
  | .text t => ofName? t
  | _ => none

/-- The extension of files in a target language. -/
def extension : Target → Text
  | c99 => C.extension

/-- The backend of a target language. -/
def backend {ε : Type} (indentation : Indentation ε) : Target → Backend Instruction ε
  | c99 => C.backend indentation

end Target

/-- Why no code was generated for a draft. -/
inductive Draft.Fault where
  /-- There is no such target language. -/
  | noTarget (value : Json)
  /-- A size of the tape is no size. -/
  | tape (fault : Tape.Fault)
  /-- The draft holds a foreign statement. -/
  | foreign (label : Nat)
  /-- The indentation cannot be used. -/
  | indentation (fault : Indentation.Fault)

/-- The wording of a fault, if the value in it can be shown. A foreign statement has none, as
nothing is known of it. -/
def Draft.Fault.wording? : Draft.Fault → Option (Except Json.Unshown Text)
  | noTarget value => some (value.described.map (· ++ " is not a valid Backend".toList))
  | tape fault => some fault.wording
  | foreign _ => none
  | indentation fault => some fault.wording

/-- The code of a draft. The target language is checked first, and then the sizes of the tape; the
indentation is not checked. -/
def Draft.generate (draft : Draft) (target pre post indent : Json) : Except Draft.Fault Code :=
  match Target.ofValue? target with
  | none => .error (.noTarget target)
  | some target =>
    ((target.backend (.ofValue indent)).items.generate draft pre post).mapError fun
      | .tape fault => .tape fault
      | .refused (.foreign label) => .foreign label
      | .refused (.refused fault) => .indentation fault

end TapeCompiler
