/-
Comments found from the tokens around them:

* `Document.commentsAround`: the comments in the trivia before a node and after it;
* `Document.metComments`: those of all nodes, in pre-order, and the comments after the last token;
* `Document.commentCandidates`: one candidate of the base layer for each of them.
-/
import SourceLayers.Document.Basic

namespace SourceLayers

/-- Whether two comments have the same bounds. -/
def Comment.sameBounds (a b : Comment) : Bool :=
  a.start == b.start && a.stop == b.stop

namespace Document

/-- The comments in the trivia before a node, and those after it on the same line. -/
def commentsAround (document : Document) (node : Node) : List Comment :=
  let full := document.fullStart node
  (if full < node.start then document.leadingComments full else []) ++
    document.trailingComments node.stop

mutual
/-- The comments around a node and around the nodes below it. Comments themselves are passed
over. -/
def commentsWithin (document : Document) : Node → List Comment
  | ⟨kind, start, stop, named, missing, field, children⟩ =>
    document.commentsAround ⟨kind, start, stop, named, missing, field, children⟩ ++
      commentsWithinAll document children

/-- The same for a list of children. -/
def commentsWithinAll (document : Document) : List Node → List Comment
  | [] => []
  | child :: rest =>
    (if child.isComment then [] else commentsWithin document child) ++
      commentsWithinAll document rest
end

/-- The comments that the nodes of a document meet, with those after the last token at the end. A
comment may be met more than once. -/
def metComments (document : Document) : List Comment :=
  document.commentsWithin document.root ++ document.leadingComments document.lastTokenEnd

/-- A candidate of the base layer for every comment that is met, in the order in which they are met
first. -/
def commentCandidates (document : Document) : List Candidate :=
  (document.metComments.eraseDupsBy Comment.sameBounds).filterMap fun comment =>
    Candidate.make? comment.start comment.stop .javascript

end Document

end SourceLayers
