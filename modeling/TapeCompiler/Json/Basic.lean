import TapeCompiler.Text.Decimal
import TapeCompiler.Text.Quoted

/-!
# JSON values

Settings, instructions and requests arrive as JSON values before they are checked. This file holds
the type and the ways in which messages show a value.

Not every value can be shown. An integer must not have too many digits, wherever it stands in the
value, and arrays and objects must not be within each other too often.

## Main definitions

* `Json` — a JSON value; numbers with a point or an exponent are kept apart from integers, and so
  are the numbers that are not finite
* `Json.describe` — the form of a value with texts in quotes
* `Json.Unshown`, `Json.Unshown.message` — why a value cannot be shown, and the wording
* `Json.described` — the form in which a message shows a value, if it can be shown
* `Json.shown` — the same, but a text stands for itself
* `Json.reported` — what comes of a wording in which a value is shown
* `Json.kind` — the word for the kind of a value
* `Json.isFinite` — whether all numbers in a value are finite
-/

namespace TapeCompiler

/-- A number that is not finite. -/
inductive Json.Special where
  /-- No number at all. -/
  | nan
  /-- Greater or less than all finite numbers. -/
  | infinity (negative : Bool)
deriving DecidableEq, Repr

/-- A JSON value. The fields of an object are in their order, without repeated keys. -/
inductive Json where
  /-- The value `null`. -/
  | null
  /-- A truth value. -/
  | bool (b : Bool)
  /-- An integer. -/
  | int (n : Int)
  /-- A number written with a point or an exponent. -/
  | decimal (d : Decimal)
  /-- A number that is not finite. -/
  | special (s : Json.Special)
  /-- A text. -/
  | text (t : Text)
  /-- An array. -/
  | array (values : List Json)
  /-- An object. -/
  | object (fields : List (Text × Json))

namespace Json

/-- The form in which a message shows a number that is not finite. -/
def Special.describe : Special → Text
  | nan => "nan".toList
  | infinity negative => (if negative then "-inf" else "inf").toList

mutual

/-- The form of a value, with texts in quotes. -/
def describe : Json → Text
  | null => "None".toList
  | bool b => (if b then "True" else "False").toList
  | int n => Numeral.ofInt n
  | decimal d => d.toText
  | special s => s.describe
  | text t => Quoted.ofText t
  | array values => '[' :: Text.join ", ".toList (describeValues values) ++ [']']
  | object fields => '\x7b' :: Text.join ", ".toList (describeFields fields) ++ ['\x7d']

/-- The forms of the values of an array. -/
def describeValues : List Json → List Text
  | [] => []
  | v :: rest => describe v :: describeValues rest

/-- The forms of the fields of an object. -/
def describeFields : List (Text × Json) → List Text
  | [] => []
  | (key, v) :: rest => (Quoted.ofText key ++ ": ".toList ++ describe v) :: describeFields rest

end

/-! ### Values that cannot be shown -/

/-- Why a value cannot be shown. -/
inductive Unshown where
  /-- An integer in it has too many digits. -/
  | digits
  /-- There are too many values in it within each other. -/
  | nesting
deriving DecidableEq, Repr

/-- The wording of the reason why a value cannot be shown. -/
def Unshown.message : Unshown → Text
  | digits => Numeral.tooLargeMessage
  | nesting => "maximum recursion depth exceeded while getting the repr of an object".toList

/-- The greatest number of values within each other that are shown. Each of them is one more call
within those that are under way, and these are limited; this is what is left if the compiler itself
is called from the outermost call. -/
def maxNesting : Nat := 994

mutual

/-- Checks that a value can be shown if so many values may be within each other, the value itself
included. Of two reasons why it cannot, the one further to the front is given. -/
def check : Nat → Json → Except Unshown Unit
  | 0, _ => .error .nesting
  | _ + 1, int n => if n.natAbs < Numeral.tooLarge then .ok () else .error .digits
  | room + 1, array values => checkValues room values
  | room + 1, object fields => checkFields room fields
  | _ + 1, _ => .ok ()

/-- Checks that the values of an array can be shown. -/
def checkValues (room : Nat) : List Json → Except Unshown Unit
  | [] => .ok ()
  | v :: rest => do
    check room v
    checkValues room rest

/-- Checks that the fields of an object can be shown. -/
def checkFields (room : Nat) : List (Text × Json) → Except Unshown Unit
  | [] => .ok ()
  | (_, v) :: rest => do
    check room v
    checkFields room rest

end

/-- The form in which a message shows a value. -/
def described (v : Json) : Except Unshown Text :=
  (check maxNesting v).map fun _ => v.describe

/-- The form in which a value is shown without quotes around a text. -/
def shown : Json → Except Unshown Text
  | text t => .ok t
  | v => v.described

/-- What is reported if this is the wording: if a value in it cannot be shown, the reason for that
takes the place of the whole. -/
def reported : Except Unshown Text → Text
  | .ok wording => wording
  | .error reason => reason.message

/-- The word for the kind of a value. -/
def kind : Json → Text
  | null => "NoneType".toList
  | bool _ => "bool".toList
  | int _ => "int".toList
  | decimal _ => "float".toList
  | special _ => "float".toList
  | text _ => "str".toList
  | array _ => "list".toList
  | object _ => "dict".toList

mutual

/-- Whether all numbers in a value are finite. -/
def isFinite : Json → Bool
  | special _ => false
  | array values => areFinite values
  | object fields => haveFiniteValues fields
  | _ => true

/-- Whether all numbers in values are finite. -/
def areFinite : List Json → Bool
  | [] => true
  | v :: rest => isFinite v && areFinite rest

/-- Whether all numbers in fields are finite. -/
def haveFiniteValues : List (Text × Json) → Bool
  | [] => true
  | (_, v) :: rest => isFinite v && haveFiniteValues rest

end

/-- The value of a field of an object. -/
def field? (key : Text) : Json → Option Json
  | object fields => fields.lookup key
  | _ => none

end Json

end TapeCompiler
