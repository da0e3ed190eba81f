/-
What a tree says about its text as a whole:

* `Summary`: the comments, the ends of the tokens, and the number of errors;
* `Summary.gather`: collects them with a stack, the last child first;
* `Node.commentNodes`, `Node.tokenNodes`, `Node.errorNodes`: the nodes they come from, by recursion
  in document order.

Nothing below a comment is looked at. A token is a node without children that is no comment.
-/
import SourceLayers.Span
import SourceLayers.Text.Slice
import SourceLayers.Tree.Node

namespace SourceLayers

/-- Whether a text begins with the mark that opens a block comment. -/
def opensBlock (text : List Char) : Bool :=
  "/*".toList.isPrefixOf text

/-- The comment at a node of a text; a node without extent has none. It runs to the end of its line
unless its text opens a block. -/
def commentAt? (text : List Char) (node : Node) : Option Comment :=
  if h : node.start < node.stop then
    some
      { start := node.start
        stop := node.stop
        isLine := !opensBlock (cut text node.start node.stop)
        start_lt_stop := by omega }
  else none

/-- The comments of a tree, the ends of its tokens, and the number of its errors, in no particular
order. -/
structure Summary where
  comments : List Comment := []
  tokenEnds : List Int := []
  errorCount : Nat := 0

namespace Summary

/-- Counts a node if it is an error. -/
def countError (summary : Summary) (node : Node) : Summary :=
  if node.isError then { summary with errorCount := summary.errorCount + 1 } else summary

/-- Adds the comment at a comment node. -/
def addComment (summary : Summary) (text : List Char) (node : Node) : Summary :=
  { summary with comments := (commentAt? text node).toList ++ summary.comments }

/-- Adds the end of a token. -/
def addToken (summary : Summary) (node : Node) : Summary :=
  { summary with tokenEnds := (node.stop : Int) :: summary.tokenEnds }

/-- Works off a stack of nodes. The children of a node are pushed in order, so the last of them
comes next. -/
def gather (text : List Char) (summary : Summary) : List Node → Summary
  | [] => summary
  | node :: stack =>
    let summary := summary.countError node
    if node.isComment then gather text (summary.addComment text node) stack
    else if node.children.isEmpty then gather text (summary.addToken node) stack
    else gather text summary (node.children.reverse ++ stack)
termination_by stack => Node.sizeAll stack
decreasing_by
  · have := Node.size_eq node
    simp only [Node.sizeAll_cons]
    omega
  · have := Node.size_eq node
    simp only [Node.sizeAll_cons]
    omega
  · have := Node.size_eq node
    simp only [List.unattach_reverse, List.unattach_attach, Node.sizeAll_cons,
      Node.sizeAll_append, Node.sizeAll_reverse]
    omega

end Summary

namespace Node

mutual
/-- The comments of a tree that are below no other comment. -/
def commentNodes : Node → List Node
  | ⟨kind, start, stop, named, missing, field, children⟩ =>
    let node : Node := ⟨kind, start, stop, named, missing, field, children⟩
    if node.isComment then [node] else commentNodesAll children

/-- The same for a list of trees. -/
def commentNodesAll : List Node → List Node
  | [] => []
  | node :: rest => commentNodes node ++ commentNodesAll rest
end

mutual
/-- The tokens of a tree: nodes without children, neither comments nor below one. -/
def tokenNodes : Node → List Node
  | ⟨kind, start, stop, named, missing, field, children⟩ =>
    let node : Node := ⟨kind, start, stop, named, missing, field, children⟩
    if node.isComment then [] else if children.isEmpty then [node] else tokenNodesAll children

/-- The same for a list of trees. -/
def tokenNodesAll : List Node → List Node
  | [] => []
  | node :: rest => tokenNodes node ++ tokenNodesAll rest
end

mutual
/-- The errors of a tree that are below no comment. -/
def errorNodes : Node → List Node
  | ⟨kind, start, stop, named, missing, field, children⟩ =>
    let node : Node := ⟨kind, start, stop, named, missing, field, children⟩
    (if node.isError then [node] else []) ++ if node.isComment then [] else errorNodesAll children

/-- The same for a list of trees. -/
def errorNodesAll : List Node → List Node
  | [] => []
  | node :: rest => errorNodes node ++ errorNodesAll rest
end

end Node

end SourceLayers
