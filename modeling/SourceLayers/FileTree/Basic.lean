/-
A tree of files as a value:

* `Place`: where a path leads, as the names that lead there from the current directory, from a
  directory above it, or from the root of all directories;
* `FileTree`: directories, and files with their octets, under their places;
* `FileTree.locate`: the place that a path leads to, through directories only;
* `FileTree.read`: the octets of a file;
* `FileTree.find`, `isFile`, `isDirectory`, `isPresent`: what is found at a path;
* `FileTree.entriesBelow`, `FileTree.filesBelow`: what is found below a directory;
* `FileError`: why a path cannot be used, with its message.
-/
import SourceLayers.FileTree.Path
import SourceLayers.Text.Quoted

namespace SourceLayers

/-- Why a path cannot be used. -/
inductive FileCause where
  | notFound
  | alreadyExists
  | notDirectory
  | isDirectory
  | nameTooLong
  | nullCharacter
  deriving DecidableEq, Repr

/-- A path that cannot be used, and why. -/
structure FileError where
  cause : FileCause
  path : Path
  deriving DecidableEq, Repr

namespace FileCause

/-- The number of a cause in messages. A path with a null character is refused before it is
followed, and has none. -/
def number? : FileCause → Option Nat
  | .notFound => some 2
  | .alreadyExists => some 17
  | .notDirectory => some 20
  | .isDirectory => some 21
  | .nameTooLong => some 36
  | .nullCharacter => none

/-- The wording of a cause. -/
def message : FileCause → String
  | .notFound => "No such file or directory"
  | .alreadyExists => "File exists"
  | .notDirectory => "Not a directory"
  | .isDirectory => "Is a directory"
  | .nameTooLong => "File name too long"
  | .nullCharacter => "embedded null byte"

/-- The kind of error that a report names. -/
def title : FileCause → String
  | .notFound => "FileNotFoundError"
  | .alreadyExists => "FileExistsError"
  | .notDirectory => "NotADirectoryError"
  | .isDirectory => "IsADirectoryError"
  | .nameTooLong => "OSError"
  | .nullCharacter => "ValueError"

end FileCause

/-- The message of an error. A numbered cause is told with the path. -/
def FileError.message (error : FileError) : String :=
  match error.cause.number? with
  | some number =>
    "[Errno " ++ toString number ++ "] " ++ error.cause.message ++ ": " ++ quote error.path.render
  | none => error.cause.message

/-! ### Places -/

/-- The directory that a place is counted from. -/
inductive Origin where
  /-- So many levels above the current directory. -/
  | above (levels : Nat)
  /-- The root of all directories. -/
  | root
  deriving DecidableEq, Repr

/-- A place: the names that lead to it from its origin, which is always a directory. -/
structure Place where
  origin : Origin := .above 0
  names : List String
  deriving DecidableEq, Repr

namespace Place

/-- The current directory. -/
def current : Place :=
  { names := [] }

/-- One level up. The root of all directories is its own parent. -/
def up (place : Place) : Place :=
  if place.names.isEmpty then
    match place.origin with
    | .above levels => { origin := .above (levels + 1), names := [] }
    | .root => place
  else { place with names := place.names.dropLast }

/-- One level down. -/
def child (place : Place) (name : String) : Place :=
  { place with names := place.names ++ [name] }

/-- The names that lead from a place to one below it. -/
def namesBelow? (place other : Place) : Option (List String) :=
  if place.origin = other.origin ∧ place.names.isPrefixOf other.names then
    some (other.names.drop place.names.length)
  else none

end Place

/-! ### Trees -/

/-- What stands at a place. -/
inductive Entry where
  | file (octets : List UInt8)
  | directory
  deriving DecidableEq, Repr

/-- Files and directories by their places. -/
structure FileTree where
  entries : List (Place × Entry) := []

/-- The number of octets that a name may have. -/
def maxNameLength : Nat :=
  255

/-- The number of octets that a path may have. -/
def maxPathLength : Nat :=
  4095

namespace FileTree

/-- What stands at a place. Above the current directory only directories are known. -/
def entryAt? (tree : FileTree) (place : Place) : Option Entry :=
  if place.names.isEmpty then some .directory else tree.entries.lookup place

/-- The tree with something put at a place. -/
def put (tree : FileTree) (place : Place) (entry : Entry) : FileTree :=
  if tree.entries.any fun old => old.1 == place then
    ⟨tree.entries.map fun old => if old.1 == place then (place, entry) else old⟩
  else ⟨tree.entries ++ [(place, entry)]⟩

/-- Follows parts from a place. Every place on the way must be a directory; two points go up. What
stands at the end does not matter, but its name must not be too long. -/
def locateFrom (tree : FileTree) (place : Place) : List String → Except FileCause Place
  | [] => .ok place
  | part :: rest =>
    match tree.entryAt? place with
    | none => .error .notFound
    | some (.file _) => .error .notDirectory
    | some .directory =>
      if part = ".." then tree.locateFrom place.up rest
      else if maxNameLength < utf8Length part then .error .nameTooLong
      else tree.locateFrom (place.child part) rest

/-- The place that a path leads to. -/
def locate (tree : FileTree) (path : Path) : Except FileCause Place :=
  if path.hasNull then .error .nullCharacter
  else if maxPathLength < utf8Length path.render then .error .nameTooLong
  else
    tree.locateFrom { origin := if path.anchor = "" then .above 0 else .root, names := [] }
      path.parts

/-- What a path leads to, if anything. A name that is too long is an error; any other path that
leads nowhere just finds nothing. -/
def find (tree : FileTree) (path : Path) : Except FileError (Option Entry) :=
  match tree.locate path with
  | .ok place => .ok (tree.entryAt? place)
  | .error .nameTooLong => .error ⟨.nameTooLong, path⟩
  | .error _ => .ok none

/-- Whether there is something at a path. -/
def isPresent (tree : FileTree) (path : Path) : Except FileError Bool :=
  Option.isSome <$> tree.find path

/-- Whether a path leads to a file. -/
def isFile (tree : FileTree) (path : Path) : Except FileError Bool :=
  (fun | some (.file _) => true | _ => false) <$> tree.find path

/-- Whether a path leads to a directory. -/
def isDirectory (tree : FileTree) (path : Path) : Except FileError Bool :=
  (fun | some .directory => true | _ => false) <$> tree.find path

/-- The octets of a file. -/
def read (tree : FileTree) (path : Path) : Except FileError (List UInt8) :=
  match tree.locate path with
  | .error cause => .error ⟨cause, path⟩
  | .ok place =>
    match tree.entryAt? place with
    | some (.file octets) => .ok octets
    | some .directory => .error ⟨.isDirectory, path⟩
    | none => .error ⟨.notFound, path⟩

/-- What stands below a directory at any depth, under paths that begin with that of the directory.
-/
def entriesBelow (tree : FileTree) (path : Path) : List (Path × Entry) :=
  match tree.locate path with
  | .error _ => []
  | .ok place =>
    tree.entries.filterMap fun (other, entry) =>
      (place.namesBelow? other).map fun names => (path.append names, entry)

/-- The files below a directory at any depth. Everything there is looked at, so a path that is too
long is an error, be it that of a file or not. -/
def filesBelow (tree : FileTree) (path : Path) : Except FileError (List Path) :=
  let below := tree.entriesBelow path
  match below.find? fun (found, _) => maxPathLength < utf8Length found.render with
  | some (found, _) => .error ⟨.nameTooLong, found⟩
  | none =>
    .ok (below.filterMap fun
      | (found, .file _) => some found
      | (_, .directory) => none)

end FileTree

end SourceLayers
