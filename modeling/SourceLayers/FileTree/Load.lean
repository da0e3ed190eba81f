/-
Reading texts and values from a tree of files:

* `FileTree.readText`: the text of a file in UTF-8, its line ends unified;
* `FileTree.loadJson`: the value of a file;
* `FileTree.loadVocabulary`: the vocabulary after the override in a file;
* `ReadFault`, `LoadFault`: what can go wrong.
-/
import SourceLayers.FileTree.Basic
import SourceLayers.Json.Parser
import SourceLayers.Text.Newline
import SourceLayers.Vocabulary.Override

namespace SourceLayers

/-- Why a text could not be read. -/
inductive ReadFault where
  | file (error : FileError)
  | encoding (fault : Utf8Fault)
  deriving DecidableEq, Repr

namespace ReadFault

/-- The wording of a fault. -/
def message : ReadFault → String
  | .file error => error.message
  | .encoding fault => fault.message

/-- The wording of a fault after the kind of error it is. -/
def reason : ReadFault → String
  | .file error => error.cause.title ++ ": " ++ error.message
  | .encoding fault => "UnicodeDecodeError: " ++ fault.message

end ReadFault

/-- Why a value or a vocabulary could not be loaded. -/
inductive LoadFault where
  | file (error : FileError)
  | notJson
  | override (fault : OverrideFault)
  deriving DecidableEq, Repr

/-- The wording of a fault. -/
def LoadFault.message : LoadFault → String
  | .file error => error.message
  | .notJson => "the file does not hold a JSON value"
  | .override fault => fault.message

namespace FileTree

/-- The text of a file. -/
def readText (tree : FileTree) (path : Path) : Except ReadFault (List Char) :=
  match tree.read path with
  | .error error => .error (.file error)
  | .ok octets =>
    match decodeUtf8 octets with
    | .error fault => .error (.encoding fault)
    | .ok text => .ok (unifyNewlines text)

/-- The value of a file. -/
def loadJson (tree : FileTree) (path : Path) : Except LoadFault Json :=
  match tree.read path with
  | .error error => .error (.file error)
  | .ok octets =>
    match Json.load? octets with
    | some value => .ok value
    | none => .error .notJson

/-- The default vocabulary after the override in a file. -/
def loadVocabulary (tree : FileTree) (path : Path) : Except LoadFault Vocabulary :=
  match tree.loadJson path with
  | .error fault => .error fault
  | .ok value =>
    match Vocabulary.default.override value with
    | .ok vocabulary => .ok vocabulary
    | .error fault => .error (.override fault)

end FileTree

end SourceLayers
