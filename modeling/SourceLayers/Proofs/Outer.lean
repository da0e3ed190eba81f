/-
Sites below no comment:

* `Site.IsBelow`: a site stands below another one if its trail leads through it;
* `Site.outer`: the sites under a site that stand below no comment there. Their nodes are what the
  recursion that stops at comments finds (`map_node_outer`);
* `eq_of_commentAt?`, `isLine_of_commentAt?`: the bounds and the text of a comment decide all of it;
* `comments_eq_mergeSort`, `tokenEnds_eq_mergeSort`: the comments and token ends of a document are
  those that the recursion finds, sorted;
* `Document.SumsUp`: what the summary of a document is, whatever the order in which its tree is
  visited.

Main statement: `summary_exact`.
-/
import Mathlib.Tactic
import SourceLayers.Proofs.CommentScan
import SourceLayers.Proofs.Subtree

namespace SourceLayers

namespace Site

/-! ### Sites below others -/

/-- Whether a site stands below another one of its tree: the trail to it leads through that one. -/
def IsBelow (site above : Site) : Prop :=
  above.trail <:+ site.trail ∧ above.trail ≠ site.trail

instance (site above : Site) : Decidable (site.IsBelow above) :=
  inferInstanceAs (Decidable (_ ∧ _))

/-- The sites under a site, itself included, that stand below no comment there, in pre-order. -/
def outer (site : Site) : List Site :=
  site.subtree.filter fun x =>
    decide (∀ above ∈ site.subtree, above.node.isComment = true → ¬ x.IsBelow above)

variable {site x : Site}

lemma trail_isSuffix_of_mem_subtree (h : x ∈ site.subtree) : site.trail <:+ x.trail := by
  obtain ⟨path, hpath⟩ := exists_trail_of_mem_subtree h
  exact ⟨path, hpath.symm⟩

/-- A site does not stand below what is under it. -/
lemma not_isBelow_of_mem_subtree (h : x ∈ site.subtree) : ¬ site.IsBelow x := by
  rintro ⟨hsuffix, hne⟩
  have hlength := (trail_isSuffix_of_mem_subtree h).length_le
  exact hne (hsuffix.eq_of_length_le hlength)

lemma isBelow_of_mem_below (h : x ∈ site.below) : x.IsBelow site := by
  refine ⟨trail_isSuffix_of_mem_subtree ?_, (trail_ne_of_mem_below h).symm⟩
  rw [subtree_eq]
  exact List.mem_cons_of_mem _ h

/-- A trail leads through one child of a site at most. -/
lemma eq_of_trail_isSuffix {first second : Site} (hfirst : first ∈ site.children)
    (hsecond : second ∈ site.children) {trail : List Nat} (h : first.trail <:+ trail)
    (h' : second.trail <:+ trail) : first = second := by
  obtain ⟨i, hi, rfl⟩ := List.mem_mapIdx.mp hfirst
  obtain ⟨j, hj, rfl⟩ := List.mem_mapIdx.mp hsecond
  have heq : i :: site.trail = j :: site.trail :=
    (List.suffix_of_suffix_length_le h h' (by simp)).eq_of_length (by simp)
  obtain ⟨rfl, -⟩ := List.cons.inj heq
  rfl

/-- What stands below a comment under a site that is no comment itself does so under a child. -/
lemma forall_not_isBelow_iff {child : Site} (hcomment : ¬ site.node.isComment = true)
    (hchild : child ∈ site.children) (hx : x ∈ child.subtree) :
    (∀ above ∈ site.subtree, above.node.isComment = true → ¬ x.IsBelow above) ↔
      ∀ above ∈ child.subtree, above.node.isComment = true → ¬ x.IsBelow above := by
  have hunder : ∀ above ∈ child.subtree, above ∈ site.subtree := by
    intro above habove
    rw [subtree_eq]
    exact List.mem_cons_of_mem _ (List.mem_flatMap.mpr ⟨child, hchild, habove⟩)
  refine ⟨fun h above habove => h above (hunder above habove), fun h above habove hisComment => ?_⟩
  rw [subtree_eq] at habove
  rcases List.mem_cons.mp habove with rfl | hbelow
  · exact absurd hisComment hcomment
  · -- what is above `x` is under the same child
    rintro ⟨hsuffix, hne⟩
    obtain ⟨other, hother, habove⟩ := List.mem_flatMap.mp hbelow
    obtain rfl := eq_of_trail_isSuffix hchild hother (trail_isSuffix_of_mem_subtree hx)
      ((trail_isSuffix_of_mem_subtree habove).trans hsuffix)
    exact h above habove hisComment ⟨hsuffix, hne⟩

/-- Below a site that is no comment, every child goes by itself. -/
lemma outer_eq (site : Site) :
    site.outer = site :: if site.node.isComment then [] else site.children.flatMap outer := by
  rw [outer, subtree_eq, List.filter_cons_of_pos]
  · congr 1
    rw [← subtree_eq]
    split
    · rename_i hcomment
      refine List.filter_eq_nil_iff.mpr fun x hx hkept => ?_
      exact of_decide_eq_true hkept site (mem_subtree_self site) hcomment (isBelow_of_mem_below hx)
    · rename_i hcomment
      rw [below, List.filter_flatMap]
      refine List.flatMap_congr fun child hchild => List.filter_congr fun x hx => ?_
      exact decide_eq_decide.mpr (forall_not_isBelow_iff hcomment hchild hx)
  · rw [← subtree_eq]
    exact decide_eq_true fun above habove _ => not_isBelow_of_mem_subtree habove

/-- The nodes of the child sites are the children of the node. -/
lemma map_node_children (site : Site) : site.children.map node = site.node.children := by
  refine List.ext_getElem (by simp [children]) fun i _ _ => ?_
  rw [List.getElem_map]
  simp [children]

/-- The recursion that stops at comments finds the nodes that stand below none. -/
lemma map_node_outer (site : Site) : site.outer.map node = site.node.outerNodes := by
  obtain ⟨node, parent, trail⟩ := site
  induction node using Node.ind generalizing parent trail with
  | _ node ih =>
      rw [outer_eq, Node.outerNodes_eq, List.map_cons]
      split
      · rfl
      · congr 1
        rw [List.map_flatMap, ← map_node_children ⟨node, parent, trail⟩, List.flatMap_map]
        refine List.flatMap_congr fun child hchild => ?_
        obtain ⟨i, -, hnode⟩ := exists_of_mem_children hchild
        exact ih child.node hnode child.parent child.trail

end Site

/-! ### Comments of one text -/

variable {text : List Char} {root : Node}

/-- Two comments of one text with the same bounds are the same. -/
lemma eq_of_commentAt? {node other : Node} {a b : Comment} (ha : commentAt? text node = some a)
    (hb : commentAt? text other = some b) (hstart : a.start = b.start) (hstop : a.stop = b.stop) :
    a = b := by
  obtain ⟨hastart, hastop⟩ := commentAt?_eq_some ha
  obtain ⟨hbstart, hbstop⟩ := commentAt?_eq_some hb
  have hsame : commentAt? text node = commentAt? text other := by
    have hstart' : node.start = other.start := by omega
    have hstop' : node.stop = other.stop := by omega
    simp only [commentAt?, hstart', hstop']
  rw [ha, hb] at hsame
  exact Option.some.inj hsame

/-- The comment at a node runs to the end of its line unless its text opens a block. -/
lemma isLine_of_commentAt? {node : Node} {comment : Comment}
    (h : commentAt? text node = some comment) :
    comment.isLine = false ↔
      "/*".toList <+: cut text comment.start.toNat comment.stop.toNat := by
  rw [commentAt?] at h
  split at h
  · cases h
    simp only [Bool.not_eq_false', opensBlock, List.isPrefixOf_iff_prefix, Int.toNat_natCast]
  · cases h

/-- The bounds of the comments at some nodes are those of the nodes with extent. -/
lemma map_bounds_filterMap (nodes : List Node) :
    (nodes.filterMap (commentAt? text)).map Comment.bounds =
      (nodes.filter fun node => decide (node.start < node.stop)).map fun node =>
        ((node.start : Int), (node.stop : Int)) := by
  induction nodes with
  | nil => rfl
  | cons node rest ih =>
      by_cases hextent : node.start < node.stop
      · rw [List.filterMap_cons_some (dif_pos hextent),
          List.filter_cons_of_pos (by simpa using hextent), List.map_cons, List.map_cons, ih]
        rfl
      · rw [List.filterMap_cons_none (dif_neg hextent),
          List.filter_cons_of_neg (by simpa using hextent), ih]

namespace Document

/-- The comments of a document are those that the recursion finds, sorted. -/
lemma comments_eq_mergeSort (text : List Char) (root : Node) :
    (ofPlaced text root).comments =
      (root.commentNodes.filterMap (commentAt? text)).mergeSort Comment.before := by
  have hperm := (perm_comments text root).trans (List.mergeSort_perm _ Comment.before).symm
  refine hperm.eq_of_pairwise (fun a b ha hb hab hba => ?_) (pairwise_mergeSort_before _)
    (pairwise_mergeSort_before _)
  obtain ⟨node, -, hnode⟩ := mem_comments_iff.mp ha
  obtain ⟨other, -, hother⟩ := List.mem_filterMap.mp (List.mem_mergeSort.mp hb)
  rw [before_iff] at hab hba
  exact eq_of_commentAt? hnode hother (by omega) (by omega)

/-- The token ends of a document are those that the recursion finds, sorted. -/
lemma tokenEnds_eq_mergeSort (text : List Char) (root : Node) :
    (ofPlaced text root).tokenEnds.toList =
      (root.tokenNodes.map fun node => (node.stop : Int)).mergeSort := by
  refine List.Perm.eq_of_pairwise (fun _ _ _ _ => le_antisymm) (pairwise_tokenEnds text root)
    (List.pairwise_mergeSort' (· ≤ ·) _) ?_
  exact (perm_tokenEnds text root).trans (List.mergeSort_perm _ _).symm

/-! ### Summaries -/

/-- What is summed up in a document, in whatever order its tree is visited. -/
structure SumsUp (document : Document) : Prop where
  /-- The comments stand in the order of their starts and then of their ends. -/
  commentsSorted : document.comments.Pairwise fun a b =>
    a.start < b.start ∨ a.start = b.start ∧ a.stop ≤ b.stop
  /-- They are the comment nodes with extent that are below no other comment. -/
  comments : (document.comments.map Comment.bounds).Perm
    ((((Site.root document.root).outer.map Site.node).filter fun node =>
      decide (node.start < node.stop) && node.isComment).map fun node =>
        ((node.start : Int), (node.stop : Int)))
  /-- Those whose text opens a block do not end with their line. -/
  isLine : ∀ comment ∈ document.comments, comment.isLine = false ↔
    "/*".toList <+: cut document.text comment.start.toNat comment.stop.toNat
  /-- The token ends increase. -/
  tokenEndsSorted : document.tokenEnds.toList.Pairwise (· ≤ ·)
  /-- They are the ends of the nodes without children that are neither comments nor below one. -/
  tokenEnds : document.tokenEnds.toList.Perm
    ((((Site.root document.root).outer.map Site.node).filter fun node =>
      !node.isComment && node.children.isEmpty).map fun node => (node.stop : Int))
  /-- The errors are counted that are not below a comment, be they comments themselves. -/
  errorCount : document.errorCount =
    ((Site.root document.root).outer.map Site.node).countP Node.isError

/-- The stack, the sorting and the early ends leave what the tree says. -/
lemma sumsUp_ofPlaced (text : List Char) (root : Node) : (ofPlaced text root).SumsUp where
  commentsSorted := (pairwise_mergeSort_before _).imp before_iff.mp
  comments := by
    have hperm := (perm_comments text root).map Comment.bounds
    rw [map_bounds_filterMap, Node.commentNodes_eq_filter, List.filter_filter] at hperm
    rw [Site.map_node_outer]
    exact hperm
  isLine := fun comment hcomment => by
    obtain ⟨node, -, hat⟩ := mem_comments_iff.mp hcomment
    exact isLine_of_commentAt? hat
  tokenEndsSorted := pairwise_tokenEnds text root
  tokenEnds := by
    have hperm := perm_tokenEnds text root
    rw [Node.tokenNodes_eq_filter] at hperm
    rw [Site.map_node_outer]
    exact hperm
  errorCount := by
    rw [errorCount_eq, Node.errorNodes_eq_filter, Site.map_node_outer, List.countP_eq_length_filter]
    rfl

end Document

/-- **The summary does not depend on the order of the visit**: for a tree on the boundaries of its
text there is a document. For whatever document there is, the stack comes to its end after it has
visited every node below no comment once; the comments, token ends and errors are those of these
nodes; and they are what the recursion in document order finds, sorted. -/
theorem summary_exact (text : List Char) (tree : Node) :
    (OnBoundaries text tree →
      ∃ document, Document.ofTree (SourceText.ofText text) tree = .ok document) ∧
    ∀ document, Document.ofTree (SourceText.ofText text) tree = .ok document →
      document.text = text ∧
      Document.place (SourceText.ofText text) tree = .ok document.root ∧
      (∃ visited : List Node, visited.Perm ((Site.root document.root).outer.map Site.node) ∧
        Summary.gather text {} [document.root] = visited.foldl (Summary.record text) {}) ∧
      document.SumsUp ∧
      document.comments =
        (document.root.commentNodes.filterMap (commentAt? text)).mergeSort Comment.before ∧
      document.tokenEnds.toList =
        (document.root.tokenNodes.map fun node => (node.stop : Int)).mergeSort ∧
      document.errorCount = document.root.errorNodes.length := by
  refine ⟨fun hboundaries => ?_, fun document hdocument => ?_⟩
  · obtain ⟨document, hdocument, -⟩ := Document.exists_document hboundaries
    exact ⟨document, hdocument⟩
  · obtain ⟨root, hplace, rfl⟩ := Document.ofTree_eq_ok_iff.mp hdocument
    refine ⟨rfl, hplace, ?_, Document.sumsUp_ofPlaced text root,
      Document.comments_eq_mergeSort text root, Document.tokenEnds_eq_mergeSort text root,
      Document.errorCount_eq text root⟩
    rw [Site.map_node_outer]
    exact Document.exists_visited_root text root

/-- A name between two comments. -/
def flankedText : List Char :=
  "/*é*/a//b".toList

/-- A tree of that text, whose second letter is `width` wide. The first comment is made up, and it
holds an error and a comment. -/
def flankedTree (width : Nat) : Node :=
  .construct "program" 0 (width + 8)
    [⟨"comment", 0, width + 4, true, true, none,
        [.construct "ERROR" 0 1 [], .construct "comment" 2 (width + 2) []]⟩,
      .construct "identifier" (width + 4) (width + 5) [],
      .construct "comment" (width + 5) (width + 8) [],
      .construct "comment" (width + 8) (width + 8) []]

/-- Two comments have an extent, the name is the only token, and of the errors the one that is
counted is the comment that is made up. -/
theorem summary_exact_flanked :
    OnBoundaries flankedText (flankedTree 2) ∧
      ∃ document, Document.ofTree (SourceText.ofText flankedText) (flankedTree 2) = .ok document ∧
        (document.comments.map Comment.bounds).Perm [(0, 5), (6, 9)] ∧
        document.tokenEnds.toList.Perm [6] ∧ document.errorCount = 1 := by
  have hboundaries : OnBoundaries flankedText (flankedTree 2) := by decide +kernel
  obtain ⟨hexists, hexact⟩ := summary_exact flankedText (flankedTree 2)
  obtain ⟨document, hdocument⟩ := hexists hboundaries
  obtain ⟨-, hplace, -, hsums, -⟩ := hexact document hdocument
  -- in characters the letter is one wide
  have hroot : document.root = flankedTree 1 := by
    have hplaced : Document.place (SourceText.ofText flankedText) (flankedTree 2) =
        .ok (flankedTree 1) := by rfl
    rw [hplaced] at hplace
    exact (Except.ok.inj hplace).symm
  have hcomments := hsums.comments
  have htokens := hsums.tokenEnds
  have herrors := hsums.errorCount
  rw [hroot] at hcomments htokens herrors
  exact ⟨hboundaries, document, hdocument, hcomments, htokens, herrors⟩

end SourceLayers
