/-
The files that a list of paths selects:

* `defaultSuffixes`: the suffixes of source files;
* `FileTree.selectFiles`: files as they are given, and the files below directories whose suffix is
  wanted, sorted by their paths and each once.

Suffixes are compared in lowercase.
-/
import SourceLayers.FileTree.Basic
import SourceLayers.Text.Letter

namespace SourceLayers

/-- The suffixes of source files. -/
def defaultSuffixes : List String :=
  [".tsx", ".jsx"]

/-- Whether the suffix of a path is one of the wanted ones. -/
def hasSuffix (suffixes : List String) (path : Path) : Bool :=
  (suffixes.map lowercase).contains (lowercase path.suffix)

namespace FileTree

/-- The files that one path selects: itself, or those below it. -/
def filesAt (tree : FileTree) (suffixes : List String) (path : Path) :
    Except FileError (List Path) := do
  if ← tree.isDirectory path then return (← tree.filesBelow path).filter (hasSuffix suffixes)
  else if ← tree.isFile path then return [path]
  else return []

/-- The files that a list of paths selects. -/
def selectFiles (tree : FileTree) (suffixes : List String) (paths : List Path) :
    Except FileError (List Path) := do
  let files ← paths.mapM (tree.filesAt suffixes)
  return (files.flatten.mergeSort Path.before).eraseDups

end FileTree

end SourceLayers
