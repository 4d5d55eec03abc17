import TapeCompiler.Text.Basic

/-!
# Paths

A path is a row of names between slashes. Empty names and single dots are left out; two dots are
kept, as they may lead out of a directory that was entered through another name. A path starts at
the working directory, or behind a leading slash at the root; exactly two leading slashes are kept.

## Main definitions

* `Path.ofText`, `Path.text` — reading and writing paths
* `Path.stem` — the last name without its extension
* `Path.child` — the path of a name in a directory
-/

namespace TapeCompiler

/-- A path. -/
structure Path where
  /-- The leading slashes, of which there are at most two. -/
  root : Text
  /-- The names, from the outermost on. -/
  names : List Text
deriving DecidableEq

namespace Path

/-- Whether a piece of a path counts. -/
def isName (piece : Text) : Bool :=
  piece ≠ [] && piece ≠ ['.']

/-- The path that a text stands for. -/
def ofText (t : Text) : Path where
  root :=
    match (t.takeWhile (· = '/')).length with
    | 0 => []
    | 2 => ['/', '/']
    | _ => ['/']
  names := (t.pieces (· = '/')).filter isName

/-- The written form of a path. -/
def text (p : Path) : Text :=
  if p.root = [] ∧ p.names = [] then ['.'] else p.root ++ Text.join ['/'] p.names

/-- The last name of a path. -/
def name (p : Path) : Text :=
  p.names.getLastD []

/-- A name without its extension: without its last dot and what stands behind it, unless the dot is
the first or the last character. -/
def stemOf (name : Text) : Text :=
  let extension := (name.reverse.takeWhile (· ≠ '.')).reverse
  let before := name.length - extension.length - 1
  if '.' ∈ name ∧ 0 < before ∧ extension ≠ [] then name.take before else name

/-- The last name of a path without its extension. -/
def stem (p : Path) : Text :=
  stemOf p.name

/-- The path of a name in a directory. -/
def child (name : Text) (p : Path) : Path :=
  { p with names := p.names ++ [name] }

end Path

end TapeCompiler
