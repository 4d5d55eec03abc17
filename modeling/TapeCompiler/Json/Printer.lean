import TapeCompiler.Json.Basic

/-!
# Writing JSON

A value is written on one line, without white space. Within a text, quotes, backslashes and the
characters below the blank are escaped, and every other character stands for itself. Numbers that
are not finite are written as words.

## Main definitions

* `Json.quoted` — a text as a JSON text
* `Json.render` — the written form of a value
-/

namespace TapeCompiler.Json

/-- The written form of a character within a JSON text. -/
def escape (c : Char) : Text :=
  if c = '"' ∨ c = '\\' then ['\\', c]
  else if c = '\n' then ['\\', 'n']
  else if c = '\r' then ['\\', 'r']
  else if c = '\t' then ['\\', 't']
  else if c = '\x08' then ['\\', 'b']
  else if c = '\x0c' then ['\\', 'f']
  else if c < ' ' then '\\' :: 'u' :: Quoted.hexadecimal 4 c.toNat
  else [c]

/-- A text as a JSON text. -/
def quoted (t : Text) : Text :=
  '"' :: t.flatMap escape ++ ['"']

/-- The written form of a number that is not finite. -/
def Special.render : Special → Text
  | .nan => "NaN".toList
  | .infinity negative => (if negative then "-Infinity" else "Infinity").toList

mutual

/-- The written form of a value. -/
def render : Json → Text
  | null => "null".toList
  | bool b => (if b then "true" else "false").toList
  | int n => Numeral.ofInt n
  | decimal d => d.toText
  | special s => s.render
  | text t => quoted t
  | array values => '[' :: Text.join [','] (renderValues values) ++ [']']
  | object fields => '\x7b' :: Text.join [','] (renderFields fields) ++ ['\x7d']

/-- The written forms of the values of an array. -/
def renderValues : List Json → List Text
  | [] => []
  | v :: rest => render v :: renderValues rest

/-- The written forms of the fields of an object. -/
def renderFields : List (Text × Json) → List Text
  | [] => []
  | (key, v) :: rest => (quoted key ++ ':' :: render v) :: renderFields rest

end

end TapeCompiler.Json
