/-
Writing to a tree of files:

* `StoreM`: changes of a tree that may fail. What was done before a failure stays done;
* `makeDirectories`: a directory with all its parents; one that is there already is fine;
* `FileTree.write`, `FileTree.append`: the octets of a file;
* `FileTree.ofEntries`: a tree from its directories and files;
* `saveJson`, `saveLines`: a value, or one value to a line. The directory comes first, then the text
  of everything that is to be written, and the file last.
-/
import SourceLayers.FileTree.Basic
import SourceLayers.Json.Printer
import SourceLayers.Text.Utf8

namespace SourceLayers

/-- Why something could not be stored. -/
inductive StoreFault where
  | file (error : FileError)
  | write (fault : WriteFault)
  deriving DecidableEq, Repr

/-- The wording of a fault. -/
def StoreFault.message : StoreFault → String
  | .file error => error.message
  | .write fault => fault.message

/-- Changes of a tree that may fail. A failure keeps the tree as it is then. -/
abbrev StoreM := ExceptT StoreFault (StateM FileTree)

namespace FileTree

/-- A step on the tree. -/
def liftStore (step : FileTree → Except FileError FileTree) : StoreM Unit := do
  match step (← get) with
  | .ok tree => set tree
  | .error error => throw (.file error)

/-- The tree with a new directory, whose parent must be there. -/
def makeDirectory (tree : FileTree) (path : Path) : Except FileError FileTree :=
  match tree.locate path with
  | .error cause => .error ⟨cause, path⟩
  | .ok place =>
    match tree.entryAt? place with
    | some _ => .error ⟨.alreadyExists, path⟩
    | none => .ok (tree.put place .directory)

/-- The tree with the octets in a file, whose directory must be there. -/
def write (tree : FileTree) (path : Path) (octets : List UInt8) : Except FileError FileTree :=
  match tree.locate path with
  | .error cause => .error ⟨cause, path⟩
  | .ok place =>
    match tree.entryAt? place with
    | some .directory => .error ⟨.isDirectory, path⟩
    | _ => .ok (tree.put place (.file octets))

/-- The tree with the octets at the end of a file, which is made if it is not there. -/
def append (tree : FileTree) (path : Path) (octets : List UInt8) : Except FileError FileTree :=
  match tree.read path with
  | .ok old => tree.write path (old ++ octets)
  | .error _ => tree.write path octets

end FileTree

/-- What follows on a directory that could not be made: nothing, if it is there already. -/
def acceptPresent (tree : FileTree) (error : FileError) : StoreM Unit :=
  match error.cause, tree.isDirectory error.path with
  | .nullCharacter, _ => throw (.file error)
  | _, .ok true => return ()
  | _, .ok false => throw (.file error)
  | _, .error other => throw (.file other)

/-- Makes a directory whose parent is there, unless it is there itself. -/
def makeLast (path : Path) : StoreM Unit := do
  let tree ← get
  match tree.makeDirectory path with
  | .ok next => set next
  | .error error =>
    if error.cause = .notFound then throw (.file error) else acceptPresent tree error

/-- Makes a directory with its parents, the parts of its path last one first. -/
def makeAll (anchor : String) : (parts : List String) → StoreM Unit
  | [] => makeLast { anchor, parts := [] }
  | part :: up => do
    let path : Path := { anchor, parts := (part :: up).reverse }
    let tree ← get
    match tree.makeDirectory path with
    | .ok next => set next
    | .error error =>
      if error.cause = .notFound then
        makeAll anchor up
        makeLast path
      else acceptPresent tree error

/-- Makes a directory with its parents. One that is there already is fine. -/
def makeDirectories (path : Path) : StoreM Unit :=
  makeAll path.anchor path.parts.reverse

/-- A tree with the given directories and files, and the directories they need. -/
def FileTree.ofEntries (directories : List Path) (files : List (Path × List UInt8)) : FileTree :=
  let build : StoreM Unit := do
    directories.forM makeDirectories
    files.forM fun (path, octets) => do
      makeDirectories path.parent
      FileTree.liftStore fun tree => tree.write path octets
  (build.run.run {}).2

/-- The text of a value, if it can be written. -/
def renderChecked (render : Json → List Char) (value : Json) : Except StoreFault (List Char) :=
  match value.writeFault? Json.maxWrittenDepth with
  | none => .ok (render value)
  | some fault => .error (.write fault)

/-- The text that lays out a value over lines. -/
def prettyText (value : Json) : Except StoreFault (List Char) :=
  renderChecked Json.pretty value

/-- Stores a value with its fields sorted, and a line feed after it. -/
def saveJson (value : Json) (path : Path) (pretty : Bool) : StoreM Unit := do
  makeDirectories path.parent
  let text ← renderChecked (if pretty then Json.pretty else Json.compact) value.sortFields
  FileTree.liftStore fun tree => tree.write path (encodeUtf8 (text ++ ['\n']))

/-- The text of some values, each on a line. -/
def linesText (records : List Json) : Except StoreFault (List Char) :=
  List.flatten <$> records.mapM fun record => (· ++ ['\n']) <$> renderChecked Json.compact record

/-- Stores values one to a line, after what the file holds or in its place. No values leave a file
that is added to alone, and empty one that is not. -/
def saveLines (records : List Json) (path : Path) (keep : Bool) : StoreM Unit := do
  makeDirectories path.parent
  if records.isEmpty then
    if keep then return ()
    else FileTree.liftStore fun tree => tree.write path []
  else
    let text ← linesText records
    FileTree.liftStore fun tree =>
      if keep then tree.append path (encodeUtf8 text) else tree.write path (encodeUtf8 text)

end SourceLayers
