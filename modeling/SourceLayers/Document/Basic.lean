/-
A text with its placed tree:

* `Document`: the text, the tree with its offsets counted in characters, the comments in order, the
  ends of the tokens in order, and the number of errors;
* `Document.ofTree`: places a tree whose offsets count octets;
* `Document.fullStart`: where the trivia before a node begins;
* `gapBetween?`: the characters between two offsets, if they are all blank;
* `Document.leadingComments`, `Document.trailingComments`: the comments in the trivia after an
  offset, all of them or those on the same line.

Main statement: `blankGap?_eq`, that a gap is found exactly where the characters are blank.
-/
import SourceLayers.Document.Summary
import SourceLayers.Search.PartitionPoint
import SourceLayers.Source.Offsets
import SourceLayers.Text.Blank

namespace SourceLayers

/-- A text with its tree. -/
structure Document where
  /-- The characters of the text. -/
  text : List Char
  /-- The tree, its offsets counted in characters. -/
  root : Node
  /-- The comments, by start and then by end. -/
  comments : List Comment
  /-- The ends of the tokens, in increasing order. -/
  tokenEnds : Array Int
  /-- The number of errors that the parser recovered from. -/
  errorCount : Nat

/-- Comments in the order of their starts, and of their ends where they start together. -/
def Comment.before (a b : Comment) : Bool :=
  a.start < b.start || (a.start == b.start && a.stop ≤ b.stop)

namespace Document

/-- The document of a text and a tree that is already placed on it. -/
def ofPlaced (text : List Char) (root : Node) : Document :=
  let summary := Summary.gather text {} [root]
  { text
    root
    comments := summary.comments.mergeSort Comment.before
    tokenEnds := summary.tokenEnds.mergeSort.toArray
    errorCount := summary.errorCount }

/-- The tree with its octet offsets turned into character offsets. -/
def place (source : SourceText) (tree : Node) : Except OffsetFault Node :=
  tree.mapOffsets fun offset => Int.toNat <$> source.charOffset offset

/-- The document of a text and the tree that a parser gave for its octets. -/
def ofTree (source : SourceText) (tree : Node) : Except OffsetFault Document :=
  ofPlaced source.chars <$> place source tree

/-- The text of a node. -/
def nodeText (document : Document) (node : Node) : List Char :=
  cut document.text node.start node.stop

/-- The end of the last token, or the start of a text without tokens. -/
def lastTokenEnd (document : Document) : Int :=
  document.tokenEnds.back?.getD 0

/-- Where the trivia before a node begins: at the end of the last token that ends no later than the
node starts, or at the start of the text. -/
def fullStart (document : Document) (node : Node) : Int :=
  match countLessEq document.tokenEnds node.start with
  | 0 => 0
  | i + 1 => document.tokenEnds.getD i 0

end Document

/-! ### Runs of comments -/

/-- The first `count` characters of a text, or all of them if there are fewer, provided that they
are blank. -/
def blankGap? : (count : Nat) → List Char → Option (List Char)
  | 0, _ => some []
  | _ + 1, [] => some []
  | count + 1, c :: rest =>
    if isBlank c then (blankGap? count rest).map (c :: ·) else none

/-- A gap is found exactly where the characters are blank. -/
theorem blankGap?_eq (count : Nat) (text : List Char) :
    blankGap? count text =
      if isBlankText (text.take count) then some (text.take count) else none := by
  induction count generalizing text with
  | zero => simp [blankGap?, isBlankText]
  | succ count ih =>
    cases text with
    | nil => simp [blankGap?, isBlankText]
    | cons c rest =>
      rw [blankGap?, ih rest]
      by_cases hc : isBlank c = true
      · by_cases hrest : isBlankText (rest.take count) = true
        · simp_all [isBlankText]
        · simp_all [isBlankText]
      · simp_all [isBlankText]

/-- The characters between two bounds, provided that they are blank. -/
def gapBetween? (text : List Char) (start stop : Int) : Option (List Char) :=
  let first := boundOffset text start
  blankGap? (boundOffset text stop - first) (text.drop first)

/-- The first comments of a list that follow on the offset `cursor` with nothing but blanks in
between. On one line the run also ends before a gap with a line feed and after a line comment. -/
def commentRun (text : List Char) (sameLine : Bool) : (cursor : Int) → List Comment → List Comment
  | _, [] => []
  | cursor, comment :: rest =>
    match gapBetween? text cursor comment.start with
    | none => []
    | some gap =>
      if sameLine && gap.contains '\n' then []
      else if sameLine && comment.isLine then [comment]
      else comment :: commentRun text sameLine comment.stop rest

namespace Document

/-- The comments from the first on that does not start before an offset. -/
def commentsFrom (document : Document) (offset : Int) : List Comment :=
  document.comments.dropWhile fun comment => decide (comment.start < offset)

/-- The comments in the trivia that begins at an offset. -/
def leadingComments (document : Document) (offset : Int) : List Comment :=
  commentRun document.text false offset (document.commentsFrom offset)

/-- The comments after an offset on the same line. -/
def trailingComments (document : Document) (offset : Int) : List Comment :=
  commentRun document.text true offset (document.commentsFrom offset)

end Document

end SourceLayers
