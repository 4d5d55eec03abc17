import TapeCompiler.Code.Target
import TapeCompiler.Json.Reader

/-!
# What is wrong with a request

The body of a request is looked at field by field, and everything that is wrong is reported: what it
is, in which place, and the value that was found there.

## Main definitions

* `Issue` — what can be wrong with a value
* `Finding` — an issue with its place and value
* `Finding.report` — the form in which a finding is reported
-/

namespace TapeCompiler.Service

/-- What can be wrong with a value. -/
inductive Issue where
  /-- There is no value. -/
  | missing
  /-- The body is not JSON. -/
  | malformed (cause : Json.Cause)
  /-- The body is not an object. -/
  | notObject
  /-- The value is not a text. -/
  | notText
  /-- The text does not name a target language. -/
  | noTarget
  /-- The text holds half of a surrogate pair, so that it cannot be read as a numeral. -/
  | notUnicode
  /-- The number is not finite. -/
  | notFinite
  /-- The number has a fractional part. -/
  | fractional
  /-- The value stands for an integer that is too large, or has too many digits. -/
  | tooLarge
  /-- The text is not the numeral of an integer. -/
  | notNumeral
  /-- The value does not stand for an integer. -/
  | notInteger
  /-- The integer is negative. -/
  | negative

namespace Issue

/-- The name of the kind of an issue. -/
def name : Issue → Text
  | missing => "missing".toList
  | malformed _ => "json_invalid".toList
  | notObject => "model_attributes_type".toList
  | notText => "string_type".toList
  | noTarget => "value_error".toList
  | notUnicode => "string_unicode".toList
  | notFinite => "finite_number".toList
  | fractional => "int_from_float".toList
  | tooLarge => "int_parsing_size".toList
  | notNumeral => "int_parsing".toList
  | notInteger => "int_type".toList
  | negative => "greater_than_equal".toList

/-- The wording of an issue. -/
def message : Issue → Text
  | missing => "Field required".toList
  | malformed _ => "JSON decode error".toList
  | notObject => "Input should be a valid dictionary or object to extract fields from".toList
  | notText => "Input should be a valid string".toList
  | noTarget => "Value error, backend must be one of: ".toList ++ Target.names
  | notUnicode =>
    "Input should be a valid string, unable to parse raw data as a unicode string".toList
  | notFinite => "Input should be a finite number".toList
  | fractional => "Input should be a valid integer, got a number with a fractional part".toList
  | tooLarge => "Unable to parse input string as an integer, exceeded maximum size".toList
  | notNumeral => "Input should be a valid integer, unable to parse string as an integer".toList
  | notInteger => "Input should be a valid integer".toList
  | negative => "Input should be greater than or equal to 0".toList

/-- Further details of an issue. -/
def details? : Issue → Option Json
  | malformed cause => some (.object [("error".toList, .text cause.message)])
  | noTarget => some (.object [("error".toList, .object [])])
  | negative => some (.object [("ge".toList, .int 0)])
  | _ => none

end Issue

/-- An issue with its place and the value that was found there. -/
structure Finding where
  /-- What is wrong. -/
  issue : Issue
  /-- The name of the field, or the offset, for an issue that is not one of the whole body. -/
  place : Option Json
  /-- The value that was found. -/
  input : Json

/-- The form in which a finding is reported. -/
def Finding.report (f : Finding) : Json :=
  .object <|
    [("type".toList, .text f.issue.name),
      ("loc".toList, .array (.text "body".toList :: f.place.toList)),
      ("msg".toList, .text f.issue.message),
      ("input".toList, f.input)]
    ++ (f.issue.details?.map fun details => ("ctx".toList, details)).toList

end TapeCompiler.Service
