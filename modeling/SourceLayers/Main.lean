/-
The program:

* standard input brings the parsed trees, one JSON object to a line with the fields `text` and
  `tree`;
* the current directory is read into a `FileTree`, the command runs on it, and what it changed is
  written back;
* the printed text goes to standard output and the notices to standard error.

Everything that the command decides is in `runCommand`.
-/
import SourceLayers.Command.Run
import SourceLayers.Tree.Row

namespace SourceLayers.Program

/-- What stands at an entry of a directory and below it, with the places. -/
partial def readEntry (place : Place) (entry : IO.FS.DirEntry) : IO (List (Place × Entry)) := do
  let place := place.child entry.fileName
  if ← entry.path.isDir then
    let below ← (← entry.path.readDir).toList.mapM (readEntry place)
    return (place, .directory) :: below.flatten
  else
    let octets ← IO.FS.readBinFile entry.path
    return [(place, .file octets.data.toList)]

/-- The files and directories below the current directory. -/
def readTree : IO FileTree := do
  let entries ← (← IO.currentDir).readDir
  let below ← entries.toList.mapM (readEntry .current)
  return ⟨below.flatten⟩

/-- The path of a place as the system takes it. -/
def systemPath (place : Place) : String :=
  match place.origin with
  | .above levels => "/".intercalate (List.replicate levels ".." ++ place.names)
  | .root => "/" ++ "/".intercalate place.names

/-- Writes what is in a tree and was not in it before. -/
def writeTree (old new : FileTree) : IO Unit := do
  for (place, entry) in new.entries do
    if old.entryAt? place != some entry then
      let path := systemPath place
      match entry with
      | .directory => IO.FS.createDirAll path
      | .file octets => IO.FS.writeBinFile path ⟨octets.toArray⟩

/-- The parsed trees on the lines of a stream. -/
partial def readTrees (input : IO.FS.Stream) : IO (List (List Char × Node)) := do
  let line ← input.getLine
  if line.isEmpty then return []
  let rest ← readTrees input
  let parsed := do
    let value ← Json.parse? line.toList
    let text ← (← value.get? "text").str?
    let tree ← Node.ofJson? (← value.get? "tree")
    some (text.toList, tree)
  return parsed.toList ++ rest

/-- A parser that looks a text up among parsed ones; a text that is not there has an empty tree. -/
def parserOf (trees : List (List Char × Node)) (text : List Char) : Node :=
  (trees.lookup text).getD default

/-- Runs the command in the current directory. -/
def run (arguments : List String) : IO UInt32 := do
  let trees ← readTrees (← IO.getStdin)
  let old ← readTree
  let (result, new) := (runCommand { parse := parserOf trees } arguments).run.run old
  writeTree old new
  match result with
  | .ok output =>
    for notice in output.notices do
      IO.eprintln notice.render
    if output.exit = 2 then IO.eprint usageText
    IO.print output.printed
    return output.exit.toUInt32
  | .error fault =>
    IO.eprintln fault.message
    return 1

end SourceLayers.Program

/-- The command line. -/
def main (arguments : List String) : IO UInt32 :=
  SourceLayers.Program.run arguments
