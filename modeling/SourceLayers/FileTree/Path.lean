/-
Paths:

* `Path`: the parts of a path, and an anchor if it does not start at the current directory;
* `Path.ofString`, `Path.render`: from and to text. Empty parts and single points are left out, and
  two points stay;
* `Path.parent`, `Path.name`, `Path.suffix`;
* `Path.hasNull`, `utf8Length`: what limits the paths that can be followed;
* `Path.before`: the order of paths, part by part.
-/
import SourceLayers.Total

namespace SourceLayers

/-- A path. -/
structure Path where
  /-- The slashes that the path begins with: none, one or two. -/
  anchor : String := ""
  /-- The names between the slashes. -/
  parts : List String
  deriving DecidableEq, Repr

/-- A text cut at its slashes. -/
def splitAtSlashes : List Char → List (List Char)
  | [] => [[]]
  | c :: rest =>
    if c = '/' then [] :: splitAtSlashes rest
    else
      match splitAtSlashes rest with
      | [] => [[c]]
      | part :: parts => (c :: part) :: parts

/-- The number of octets of a text in UTF-8. -/
def utf8Length (text : String) : Nat :=
  total Char.utf8Size text.toList

/-- Whether a list of names comes before another one, or is the same: the first names that differ
decide, and a list comes before its continuations. -/
def namesBefore : List String → List String → Bool
  | [], _ => true
  | _ :: _, [] => false
  | a :: as, b :: bs => if a = b then namesBefore as bs else decide (a < b)

namespace Path

/-- The path of a text. Exactly two slashes at its start are kept, more count as one. -/
def ofString (text : String) : Path :=
  let slashes := (text.toList.takeWhile (· = '/')).length
  { anchor := if slashes = 0 then "" else if slashes = 2 then "//" else "/"
    parts := ((splitAtSlashes text.toList).map String.ofList).filter fun part =>
      part != "" && part != "." }

/-- The text of a path; the current directory is a point. -/
def render (path : Path) : String :=
  if path.anchor = "" ∧ path.parts.isEmpty then "."
  else path.anchor ++ "/".intercalate path.parts

/-- The path without its last part. -/
def parent (path : Path) : Path :=
  { path with parts := path.parts.dropLast }

/-- The path extended by further parts. -/
def append (path : Path) (parts : List String) : Path :=
  { path with parts := path.parts ++ parts }

/-- The last part. -/
def name (path : Path) : String :=
  path.parts.getLast?.getD ""

/-- The end of a name from its last point on. A point that is the first or the last character begins
no suffix. -/
def suffix (path : Path) : String :=
  let back := path.name.toList.reverse
  let tail := back.takeWhile (· != '.')
  -- what stands before the last point
  let head := back.drop (tail.length + 1)
  if tail.isEmpty || head.isEmpty then "" else String.ofList ('.' :: tail.reverse)

/-- Whether the null character stands in a path. -/
def hasNull (path : Path) : Bool :=
  path.parts.any fun part => part.toList.any fun c => c.toNat == 0

/-- The parts by which paths are ordered. -/
def sortKey (path : Path) : List String :=
  if path.anchor = "" then path.parts else path.anchor :: path.parts

/-- Whether a path comes before another one, or is the same. -/
def before (a b : Path) : Bool :=
  namesBefore a.sortKey b.sortKey

end Path

end SourceLayers
