import TapeCompiler.Files.Path
import TapeCompiler.Text.Quoted

/-!
# Directory trees

A tree of directories and files, seen from a working directory. Of what lies outside the working
directory only the directories that lead to it, the root with its usual directories, and the device
`/dev/null` are known to exist at first. The length of names and paths is limited, and counted in
bytes.

## Main definitions

* `Tree` — the files and directories
* `Tree.entry?` — what there is in a place
* `Tree.find`, `Tree.isDirectory`, `Tree.read`, `Tree.write` — work with paths
* `Files.Fault.message` — the wording of a failure
-/

namespace TapeCompiler

namespace Files

/-- Why a path cannot be used. -/
inductive Cause where
  /-- There is no such file or directory. -/
  | notFound
  /-- Something on the way is not a directory. -/
  | notDirectory
  /-- There is a directory in the place of a file. -/
  | isDirectory
  /-- The path, or a name in it, is too long. -/
  | tooLong
  /-- The path has a null character in it. -/
  | nullCharacter
deriving DecidableEq, Repr

/-- A failure to use a path. -/
structure Fault where
  /-- What went wrong. -/
  cause : Cause
  /-- The path. -/
  path : Path

/-- The wording of a failure. -/
def Fault.message (f : Fault) : Text :=
  match f.cause with
  | .notFound => "[Errno 2] No such file or directory: ".toList ++ Quoted.ofText f.path.text
  | .notDirectory => "[Errno 20] Not a directory: ".toList ++ Quoted.ofText f.path.text
  | .isDirectory => "[Errno 21] Is a directory: ".toList ++ Quoted.ofText f.path.text
  | .tooLong => "[Errno 36] File name too long: ".toList ++ Quoted.ofText f.path.text
  | .nullCharacter => "embedded null byte".toList

/-- A file with its bytes, a directory, or a device. -/
inductive Entry where
  /-- A file. -/
  | file (bytes : ByteArray)
  /-- A directory. -/
  | directory
  /-- A device that is always empty: what is written to it is lost. -/
  | sink

/-- Whether there is a file with certain bytes. -/
def Entry.isFileWith (bytes : ByteArray) : Option Entry → Bool
  | some (.file found) => found.data = bytes.data
  | _ => false

/-- A place in a tree: the names on the way to it, the innermost first. The way starts at the
working directory and may go up from there, or it starts at the root, which has the name `/`. -/
abbrev Place := List Text

namespace Place

/-- The directory around a place. -/
def outer : Place → Place
  | [] => [['.', '.']]
  | name :: rest =>
    if name = ['.', '.'] then ['.', '.'] :: name :: rest
    else if name = ['/'] then [['/']]
    else rest

/-- The place that a name leads to from a directory. -/
def next (name : Text) (place : Place) : Place :=
  if name = ['.', '.'] then place.outer else name :: place

/-- Whether a place is the working directory, lies on the way up from it, or is the root. -/
def isOuter (place : Place) : Bool :=
  place.all fun name => name = ['.', '.'] || name = ['/']

end Place

end Files

open Files

/-- The names of the usual directories of the root. -/
def Files.usualNames : List String :=
  ["bin", "boot", "dev", "etc", "home", "lib", "media", "mnt", "opt", "proc", "root", "run", "sbin",
    "srv", "sys", "tmp", "usr", "var"]

/-- What is known to exist outside the working directory. -/
def Files.surroundings : List (Place × Entry) :=
  (["null".toList, "dev".toList, ['/']], .sink) ::
    usualNames.map fun name => ([name.toList, ['/']], .directory)

/-- The files and directories that are known to exist. -/
structure Tree where
  /-- What there is, by place. -/
  entries : List (Place × Entry) := Files.surroundings

namespace Tree

/-- What there is in a place. -/
def entry? (tree : Tree) (place : Place) : Option Entry :=
  if place.isOuter then some .directory else tree.entries.lookup place

/-- Puts an entry into a place. -/
def put (place : Place) (entry : Entry) (tree : Tree) : Tree where
  entries := (place, entry) :: tree.entries.filter fun (p, _) => p ≠ place

/-- The greatest number of bytes of a name. -/
def maxNameSize : Nat := 255

/-- The greatest number of bytes of a path. -/
def maxPathSize : Nat := 4095

/-- The number of bytes of a text. -/
def size (t : Text) : Nat :=
  t.foldl (fun n c => n + c.utf8Size) 0

/-- Follows names from a place. Every place on the way has to be a directory. -/
def follow (tree : Tree) (place : Place) : List Text → Except Cause Place
  | [] => .ok place
  | name :: rest =>
    match tree.entry? place with
    | none => .error .notFound
    | some (.file _) | some .sink => .error .notDirectory
    | some .directory =>
      if maxNameSize < size name then .error .tooLong else follow tree (place.next name) rest

/-- The place of a path. -/
def place (tree : Tree) (path : Path) : Except Cause Place :=
  if '\x00' ∈ path.text then .error .nullCharacter
  else if maxPathSize < size path.text then .error .tooLong
  else follow tree (if path.root = [] then [] else [['/']]) path.names

/-- What a path leads to, if to anything. It is a failure to look for a path that is too long. -/
def find (tree : Tree) (path : Path) : Except Fault (Option Entry) :=
  match tree.place path with
  | .ok place => .ok (tree.entry? place)
  | .error .tooLong => .error ⟨.tooLong, path⟩
  | .error _ => .ok none

/-- Whether a path leads to a directory. -/
def isDirectory (tree : Tree) (path : Path) : Except Fault Bool :=
  (tree.find path).map fun
    | some .directory => true
    | _ => false

/-- The bytes of the file that a path leads to. -/
def read (tree : Tree) (path : Path) : Except Fault ByteArray := do
  let place ← (tree.place path).mapError (⟨·, path⟩)
  match tree.entry? place with
  | some (.file bytes) => return bytes
  | some .sink => return .empty
  | some .directory => throw ⟨.isDirectory, path⟩
  | none => throw ⟨.notFound, path⟩

/-- Writes a file. The directory around it has to exist. -/
def write (path : Path) (bytes : ByteArray) (tree : Tree) : Except Fault Tree := do
  let place ← (tree.place path).mapError (⟨·, path⟩)
  match tree.entry? place with
  | some .directory => throw ⟨.isDirectory, path⟩
  | some .sink => return tree
  | _ => return tree.put place (.file bytes)

/-- Adds the directories on the way along names from a place, with the place where the way ends. -/
def addDirectories (tree : Tree) (place : Place) : List Text → Tree × Place
  | [] => (tree, place)
  | name :: rest =>
    let inner := place.next name
    match tree.entry? inner with
    | some _ => tree.addDirectories inner rest
    | none => (tree.put inner .directory).addDirectories inner rest

/-- Adds a directory, and the directories on the way to it. -/
def addDirectory (path : Path) (tree : Tree) : Tree :=
  (tree.addDirectories [] path.names).1

/-- Adds a file, and the directories on the way to it. -/
def addFile (path : Path) (bytes : ByteArray) (tree : Tree) : Tree :=
  let (tree, place) := tree.addDirectories [] path.names.dropLast
  tree.put (place.next path.name) (.file bytes)

/-- The files in and below the working directory that are not in an earlier tree, or have other
bytes there. -/
def changes (before after : Tree) : List (Place × ByteArray) :=
  after.entries.filterMap fun (place, entry) =>
    match entry with
    | .file bytes =>
      if place.any fun name => name = ['.', '.'] || name = ['/'] then none
      else if Entry.isFileWith bytes (before.entry? place) then none
      else some (place, bytes)
    | _ => none

end Tree

end TapeCompiler
