/-
What the summary of a tree holds:

* `Node.outerNodes`: the nodes that lie below no comment, in document order. Comments, tokens and
  errors are taken from them (`commentNodes_eq_filter`, `tokenNodes_eq_filter`,
  `errorNodes_eq_filter`);
* `exists_visited`: the stack, which takes the last child first, visits each of these nodes once;
* `perm_comments`, `perm_tokenEnds`, `errorCount_eq`: so a document has the comments, the ends of
  the tokens and the number of errors that the recursion finds;
* `mem_comments_iff`, `mem_tokenEnds_iff`: the comments and token ends of a document;
* `pairwise_comments`, `pairwise_tokenEnds`: they are sorted.
-/
import Mathlib.Tactic
import SourceLayers.Document.Basic
import SourceLayers.Proofs.Tree

namespace SourceLayers

namespace Node

lemma commentNodesAll_eq_flatMap (nodes : List Node) :
    commentNodesAll nodes = nodes.flatMap commentNodes := by
  induction nodes with
  | nil => rfl
  | cons node rest ih => rw [commentNodesAll, ih, List.flatMap_cons]

lemma tokenNodesAll_eq_flatMap (nodes : List Node) :
    tokenNodesAll nodes = nodes.flatMap tokenNodes := by
  induction nodes with
  | nil => rfl
  | cons node rest ih => rw [tokenNodesAll, ih, List.flatMap_cons]

lemma errorNodesAll_eq_flatMap (nodes : List Node) :
    errorNodesAll nodes = nodes.flatMap errorNodes := by
  induction nodes with
  | nil => rfl
  | cons node rest ih => rw [errorNodesAll, ih, List.flatMap_cons]

lemma commentNodes_eq (node : Node) :
    node.commentNodes = if node.isComment then [node] else commentNodesAll node.children := by
  cases node
  rfl

lemma tokenNodes_eq (node : Node) :
    node.tokenNodes =
      if node.isComment then []
      else if node.children.isEmpty then [node] else tokenNodesAll node.children := by
  cases node
  rfl

lemma errorNodes_eq (node : Node) :
    node.errorNodes =
      (if node.isError then [node] else []) ++
        if node.isComment then [] else errorNodesAll node.children := by
  cases node
  rfl

/-! ### Nodes below no comment -/

mutual
/-- The nodes of a tree that lie below no comment, in pre-order. -/
def outerNodes : Node → List Node
  | ⟨kind, start, stop, named, missing, field, children⟩ =>
    let node : Node := ⟨kind, start, stop, named, missing, field, children⟩
    node :: if node.isComment then [] else outerNodesAll children

/-- The same for a list of trees. -/
def outerNodesAll : List Node → List Node
  | [] => []
  | node :: rest => outerNodes node ++ outerNodesAll rest
end

lemma outerNodesAll_eq_flatMap (nodes : List Node) :
    outerNodesAll nodes = nodes.flatMap outerNodes := by
  induction nodes with
  | nil => rfl
  | cons node rest ih => rw [outerNodesAll, ih, List.flatMap_cons]

lemma outerNodes_eq (node : Node) :
    node.outerNodes = node :: if node.isComment then [] else node.children.flatMap outerNodes := by
  rw [← outerNodesAll_eq_flatMap]
  cases node
  rfl

/-- Whether a node is a token: it has no children and is no comment. -/
def isLeaf (node : Node) : Bool :=
  !node.isComment && node.children.isEmpty

/-- A recursion that stops at comments, and of each node only keeps whether it is of some sort,
selects the nodes of that sort. -/
lemma eq_filter_outerNodes {sort : Node → Bool} {found : Node → List Node}
    (hfound : ∀ node, found node = (if sort node then [node] else []) ++
      if node.isComment then [] else node.children.flatMap found)
    (node : Node) : found node = node.outerNodes.filter sort := by
  induction node using ind with
  | _ node ih =>
      -- what is found below is, by induction, what is selected below
      have hbelow : (if node.isComment then [] else node.children.flatMap found) =
          (if node.isComment then [] else node.children.flatMap outerNodes).filter sort := by
        split
        · rfl
        · rw [List.filter_flatMap, List.flatMap_congr ih]
      rw [hfound, hbelow, outerNodes_eq, List.filter_cons]
      cases sort node <;> rfl

lemma commentNodes_eq_filter (node : Node) :
    node.commentNodes = node.outerNodes.filter isComment := by
  refine eq_filter_outerNodes (fun node => ?_) node
  rw [commentNodes_eq, commentNodesAll_eq_flatMap]
  by_cases hcomment : node.isComment = true <;> simp [hcomment]

lemma tokenNodes_eq_filter (node : Node) :
    node.tokenNodes = node.outerNodes.filter isLeaf := by
  refine eq_filter_outerNodes (fun node => ?_) node
  rw [tokenNodes_eq, tokenNodesAll_eq_flatMap]
  by_cases hcomment : node.isComment = true
  · simp [isLeaf, hcomment]
  · by_cases hempty : node.children = [] <;> simp [isLeaf, hcomment, hempty]

lemma errorNodes_eq_filter (node : Node) :
    node.errorNodes = node.outerNodes.filter isError := by
  refine eq_filter_outerNodes (fun node => ?_) node
  rw [errorNodes_eq, errorNodesAll_eq_flatMap]

end Node

/-! ### The stack -/

namespace Summary

variable {text : List Char}

/-- Takes down what a single node says. -/
def record (text : List Char) (summary : Summary) (node : Node) : Summary :=
  let summary := summary.countError node
  if node.isComment then summary.addComment text node
  else if node.children.isEmpty then summary.addToken node
  else summary

/-- **The stack visits every node below no comment once**, in whatever order, and takes down what
it says. -/
lemma exists_visited (text : List Char) (summary : Summary) (stack : List Node) :
    ∃ visited : List Node, visited.Perm (stack.flatMap Node.outerNodes) ∧
      gather text summary stack = visited.foldl (record text) summary := by
  fun_induction gather text summary stack with
  | case1 summary => exact ⟨[], List.Perm.refl _, rfl⟩
  | case2 summary node stack counted hcomment ih =>
      obtain ⟨visited, hperm, hgather⟩ := ih
      refine ⟨node :: visited, ?_, ?_⟩
      · rw [List.flatMap_cons, Node.outerNodes_eq, if_pos hcomment]
        exact hperm.cons node
      · rw [hgather, List.foldl_cons, record, if_pos hcomment]
  | case3 summary node stack counted hcomment hleaf ih =>
      obtain ⟨visited, hperm, hgather⟩ := ih
      refine ⟨node :: visited, ?_, ?_⟩
      · rw [List.flatMap_cons, Node.outerNodes_eq, if_neg hcomment, List.isEmpty_iff.mp hleaf]
        exact hperm.cons node
      · rw [hgather, List.foldl_cons, record, if_neg hcomment, if_pos hleaf]
  | case4 summary node stack counted hcomment hleaf ih =>
      obtain ⟨visited, hperm, hgather⟩ := ih
      rw [List.unattach_reverse, List.unattach_attach] at hperm hgather
      refine ⟨node :: visited, ?_, ?_⟩
      · rw [List.flatMap_cons, Node.outerNodes_eq, if_neg hcomment]
        -- the order in which the children are pushed does not matter
        rw [List.flatMap_append] at hperm
        have hchildren := (List.reverse_perm node.children).flatMap_right Node.outerNodes
        exact (hperm.trans (hchildren.append_right _)).cons node
      · rw [hgather, List.foldl_cons, record, if_neg hcomment, if_neg hleaf]

lemma comments_record (summary : Summary) (node : Node) :
    (record text summary node).comments =
      (if node.isComment then (commentAt? text node).toList else []) ++ summary.comments := by
  have hcounted : (summary.countError node).comments = summary.comments := by
    rw [countError]
    split <;> rfl
  rw [record]
  split
  · rw [addComment, hcounted]
  · split <;> exact hcounted

lemma tokenEnds_record (summary : Summary) (node : Node) :
    (record text summary node).tokenEnds =
      (if node.isLeaf then [(node.stop : Int)] else []) ++ summary.tokenEnds := by
  have hcounted : (summary.countError node).tokenEnds = summary.tokenEnds := by
    rw [countError]
    split <;> rfl
  rw [record, Node.isLeaf]
  by_cases hcomment : node.isComment = true
  · simp [hcomment, addComment, hcounted]
  · by_cases hempty : node.children.isEmpty = true <;>
      simp [hcomment, hempty, addToken, hcounted]

lemma errorCount_record (summary : Summary) (node : Node) :
    (record text summary node).errorCount =
      (if node.isError then 1 else 0) + summary.errorCount := by
  have hcounted : (record text summary node).errorCount = (summary.countError node).errorCount := by
    rw [record]
    split
    · rfl
    · split <;> rfl
  rw [hcounted, countError]
  split <;> simp [Nat.add_comm]

lemma perm_comments_foldl (summary : Summary) (nodes : List Node) :
    (nodes.foldl (record text) summary).comments.Perm
      ((nodes.filter Node.isComment).filterMap (commentAt? text) ++ summary.comments) := by
  induction nodes generalizing summary with
  | nil => exact List.Perm.refl _
  | cons node rest ih =>
      refine (ih _).trans ?_
      rw [comments_record]
      by_cases hcomment : node.isComment = true
      · rw [if_pos hcomment, List.filter_cons_of_pos hcomment, List.filterMap_cons]
        -- the comment moves from the summary to the front of what is found
        cases commentAt? text node <;> simp
      · rw [if_neg hcomment, List.filter_cons_of_neg hcomment]
        exact List.Perm.refl _

lemma perm_tokenEnds_foldl (summary : Summary) (nodes : List Node) :
    (nodes.foldl (record text) summary).tokenEnds.Perm
      ((nodes.filter Node.isLeaf).map (fun node => (node.stop : Int)) ++ summary.tokenEnds) := by
  induction nodes generalizing summary with
  | nil => exact List.Perm.refl _
  | cons node rest ih =>
      refine (ih _).trans ?_
      rw [tokenEnds_record]
      by_cases hleaf : node.isLeaf = true
      · rw [if_pos hleaf, List.filter_cons_of_pos hleaf]
        simp
      · rw [if_neg hleaf, List.filter_cons_of_neg hleaf]
        exact List.Perm.refl _

lemma errorCount_foldl (summary : Summary) (nodes : List Node) :
    (nodes.foldl (record text) summary).errorCount =
      nodes.countP Node.isError + summary.errorCount := by
  induction nodes generalizing summary with
  | nil => simp
  | cons node rest ih =>
      rw [List.foldl_cons, ih, errorCount_record, List.countP_cons]
      omega

end Summary

/-! ### The summary of a document -/

namespace Document

variable {text : List Char} {root : Node}

/-- The summary of a document takes down every node below no comment once. -/
lemma exists_visited_root (text : List Char) (root : Node) :
    ∃ visited : List Node, visited.Perm root.outerNodes ∧
      Summary.gather text {} [root] = visited.foldl (Summary.record text) {} := by
  simpa using Summary.exists_visited text {} [root]

lemma perm_comments (text : List Char) (root : Node) :
    (ofPlaced text root).comments.Perm (root.commentNodes.filterMap (commentAt? text)) := by
  obtain ⟨visited, hperm, hgather⟩ := exists_visited_root text root
  refine (List.mergeSort_perm _ _).trans ?_
  rw [hgather, Node.commentNodes_eq_filter]
  refine (Summary.perm_comments_foldl {} visited).trans ?_
  rw [List.append_nil]
  exact (hperm.filter _).filterMap _

lemma perm_tokenEnds (text : List Char) (root : Node) :
    (ofPlaced text root).tokenEnds.toList.Perm
      (root.tokenNodes.map fun node => (node.stop : Int)) := by
  obtain ⟨visited, hperm, hgather⟩ := exists_visited_root text root
  refine (List.mergeSort_perm _ _).trans ?_
  rw [hgather, Node.tokenNodes_eq_filter]
  refine (Summary.perm_tokenEnds_foldl {} visited).trans ?_
  rw [List.append_nil]
  exact (hperm.filter _).map _

lemma errorCount_eq (text : List Char) (root : Node) :
    (ofPlaced text root).errorCount = root.errorNodes.length := by
  obtain ⟨visited, hperm, hgather⟩ := exists_visited_root text root
  rw [ofPlaced, hgather, Summary.errorCount_foldl, Node.errorNodes_eq_filter,
    ← List.countP_eq_length_filter, hperm.countP_eq]
  rfl

lemma mem_comments_iff {comment : Comment} :
    comment ∈ (ofPlaced text root).comments ↔
      ∃ node ∈ root.commentNodes, commentAt? text node = some comment := by
  rw [(perm_comments text root).mem_iff, List.mem_filterMap]

lemma mem_tokenEnds_iff {e : Int} :
    e ∈ (ofPlaced text root).tokenEnds ↔ ∃ node ∈ root.tokenNodes, (node.stop : Int) = e := by
  rw [← Array.mem_toList_iff, (perm_tokenEnds text root).mem_iff, List.mem_map]

lemma before_iff {a b : Comment} :
    a.before b = true ↔ a.start < b.start ∨ a.start = b.start ∧ a.stop ≤ b.stop := by
  simp [Comment.before]

/-- Comments in any order are sorted by their starts and then by their ends. -/
lemma pairwise_mergeSort_before (comments : List Comment) :
    (comments.mergeSort Comment.before).Pairwise fun a b => a.before b = true := by
  apply List.pairwise_mergeSort
  · intro a b c hab hbc
    rw [before_iff] at hab hbc ⊢
    omega
  · intro a b
    rw [Bool.or_eq_true, before_iff, before_iff]
    omega

/-- The comments of a document stand in the order of their starts. -/
lemma pairwise_comments (text : List Char) (root : Node) :
    (ofPlaced text root).comments.Pairwise fun a b => a.start ≤ b.start := by
  refine (pairwise_mergeSort_before _).imp fun {a b} hbefore => ?_
  rw [before_iff] at hbefore
  omega

/-- The ends of the tokens of a document are in increasing order. -/
lemma pairwise_tokenEnds (text : List Char) (root : Node) :
    (ofPlaced text root).tokenEnds.toList.Pairwise (· ≤ ·) :=
  List.pairwise_mergeSort' (· ≤ ·) _

end Document

end SourceLayers
