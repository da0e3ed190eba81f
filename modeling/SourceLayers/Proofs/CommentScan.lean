/-
The candidates of comments:

* `Comment.bounds`, `Span.bounds`: where a comment and a candidate begin and end;
* `commentRun_sublist`: a run holds comments that it looks at, so only comments of the document are
  met (`mem_comments_of_mem_metComments`);
* `nodup_bounds_eraseDupsBy`: no bounds are kept twice;
* `mem_commentCandidates_iff`: in a well tokenised text the candidates are the marks of the comment
  nodes.

Main statement: `commentCandidates_exact`, that the scan finds comments only, each once, and in a
well tokenised text all of them.
-/
import Mathlib.Tactic
import SourceLayers.Proofs.Classification

namespace SourceLayers

/-- The bounds of a comment. -/
def Comment.bounds (comment : Comment) : Int × Int :=
  (comment.start, comment.stop)

/-- The bounds of a span. -/
def Span.bounds (span : Span) : Int × Int :=
  (span.start, span.stop)

lemma Comment.sameBounds_iff {a b : Comment} :
    Comment.sameBounds a b = true ↔ a.bounds = b.bounds := by
  simp [Comment.sameBounds, Comment.bounds]

/-! ### Only comments are met -/

/-- A run holds comments that it looks at. -/
lemma commentRun_sublist (text : List Char) (sameLine : Bool) (cursor : Int)
    (comments : List Comment) : (commentRun text sameLine cursor comments).Sublist comments := by
  fun_induction commentRun text sameLine cursor comments with
  | case1 => exact List.nil_sublist _
  | case2 => exact List.nil_sublist _
  | case3 => exact List.nil_sublist _
  | case4 cursor comment rest => exact (List.nil_sublist rest).cons_cons comment
  | case5 cursor comment rest gap hgap hbreak hline ih => exact ih.cons_cons comment

namespace Document

variable {document : Document} {comment : Comment}

/-- What a run from an offset finds is a comment of the document. -/
lemma mem_comments_of_mem_run {sameLine : Bool} {offset : Int}
    (h : comment ∈ commentRun document.text sameLine offset (document.commentsFrom offset)) :
    comment ∈ document.comments :=
  (List.dropWhile_sublist _).subset ((commentRun_sublist _ _ _ _).subset h)

lemma mem_comments_of_mem_commentsAround {node : Node}
    (h : comment ∈ document.commentsAround node) : comment ∈ document.comments := by
  rcases List.mem_append.mp h with hleading | htrailing
  · split at hleading
    · exact mem_comments_of_mem_run hleading
    · cases hleading
  · exact mem_comments_of_mem_run htrailing

lemma mem_comments_of_mem_commentsWithin {node : Node}
    (h : comment ∈ document.commentsWithin node) : comment ∈ document.comments := by
  induction node using Node.ind with
  | _ node ih =>
      rw [commentsWithin_eq, commentsWithinAll_eq_flatMap] at h
      rcases List.mem_append.mp h with haround | hbelow
      · exact mem_comments_of_mem_commentsAround haround
      · obtain ⟨child, hchild, hmem⟩ := List.mem_flatMap.mp hbelow
        split at hmem
        · cases hmem
        · exact ih child hchild hmem

/-- Whatever the tree, only comments of the document are met. -/
lemma mem_comments_of_mem_metComments (h : comment ∈ document.metComments) :
    comment ∈ document.comments := by
  rcases List.mem_append.mp h with hwithin | hlast
  · exact mem_comments_of_mem_commentsWithin hwithin
  · exact mem_comments_of_mem_run hlast

end Document

/-! ### Each bounds once -/

/-- Without duplicates there are comments of the list only, and no bounds twice. -/
lemma nodup_bounds_eraseDupsBy (comments : List Comment) :
    (∀ comment ∈ comments.eraseDupsBy Comment.sameBounds, comment ∈ comments) ∧
      ((comments.eraseDupsBy Comment.sameBounds).map Comment.bounds).Nodup := by
  -- by the length, since what follows a kept comment is filtered
  induction hlength : comments.length using Nat.strong_induction_on generalizing comments with
  | _ length ih =>
      cases comments with
      | nil => simp
      | cons first rest =>
          have hshorter : (rest.filter fun b => b.sameBounds first = false).length < length := by
            rw [← hlength, List.length_cons]
            exact Nat.lt_succ_of_le (List.length_filter_le _ _)
          obtain ⟨hsubset, hnodup⟩ := ih _ hshorter _ rfl
          rw [List.eraseDupsBy_cons]
          constructor
          · intro comment hmem
            rcases List.mem_cons.mp hmem with rfl | hkept
            · exact List.mem_cons_self
            · exact List.mem_cons_of_mem _ (List.mem_filter.mp (hsubset comment hkept)).1
          · rw [List.map_cons, List.nodup_cons]
            refine ⟨fun hmem => ?_, hnodup⟩
            obtain ⟨other, hother, hbounds⟩ := List.mem_map.mp hmem
            have hdiffer := (List.mem_filter.mp (hsubset other hother)).2
            simp [Comment.sameBounds_iff.mpr hbounds] at hdiffer

namespace Document

variable {text : List Char} {root : Node} {document : Document}

/-- A candidate of the scan is the candidate of a comment that is kept. -/
lemma bounds_commentCandidates_sublist (document : Document) :
    (document.commentCandidates.map fun c => c.bounds).Sublist
      ((document.metComments.eraseDupsBy Comment.sameBounds).map Comment.bounds) := by
  rw [commentCandidates]
  generalize document.metComments.eraseDupsBy Comment.sameBounds = comments
  induction comments with
  | nil => simp
  | cons first rest ih =>
      rw [List.filterMap_cons, List.map_cons]
      cases hmake : Candidate.make? first.start first.stop .javascript with
      | none => exact ih.cons _
      | some c =>
          obtain ⟨hstart, hstop, -⟩ := make?_eq_some_iff.mp hmake
          have hbounds : c.bounds = first.bounds := by
            rw [Span.bounds, Comment.bounds, hstart, hstop]
          simp only [List.map_cons, hbounds]
          exact ih.cons_cons _

/-- **Soundness of the scan**: every candidate is one of the base language, on the bounds of a
comment. -/
lemma exists_comment_of_mem_commentCandidates {c : Candidate}
    (h : c ∈ document.commentCandidates) :
    c.layer = .javascript ∧ c.priority = 1 ∧
      ∃ comment ∈ document.comments, c.bounds = comment.bounds := by
  obtain ⟨comment, hkept, hmake⟩ := List.mem_filterMap.mp h
  obtain ⟨hstart, hstop, hlayer, hpriority⟩ := make?_eq_some_iff.mp hmake
  have hmet := (nodup_bounds_eraseDupsBy document.metComments).1 comment hkept
  refine ⟨hlayer, hpriority, comment, mem_comments_of_mem_metComments hmet, ?_⟩
  rw [Span.bounds, Comment.bounds, hstart, hstop]

/-- No two candidates of comments have the same bounds. -/
lemma nodup_bounds_commentCandidates (document : Document) :
    (document.commentCandidates.map fun c => c.bounds).Nodup :=
  (nodup_bounds_eraseDupsBy document.metComments).2.sublist
    (bounds_commentCandidates_sublist document)

/-- A comment of a placed tree does not begin before the text. -/
lemma start_nonneg_of_mem_comments {comment : Comment}
    (h : comment ∈ (ofPlaced text root).comments) : 0 ≤ comment.start := by
  obtain ⟨node, -, hat⟩ := mem_comments_iff.mp h
  rw [(commentAt?_eq_some hat).1]
  exact Int.natCast_nonneg _

end Document

namespace WellTokenised

variable {text : List Char} {root : Node}

/-- **Completeness of the scan**: every comment of a well tokenised text has a candidate. -/
lemma exists_mem_commentCandidates (h : WellTokenised text root) {comment : Comment}
    (hmem : comment ∈ (Document.ofPlaced text root).comments) :
    ∃ c ∈ (Document.ofPlaced text root).commentCandidates, c.bounds = comment.bounds := by
  obtain ⟨c, hc, hstart, hstop⟩ := exists_commentCandidate (h.mem_metComments hmem)
    (Document.start_nonneg_of_mem_comments hmem)
  exact ⟨c, hc, by rw [Span.bounds, Comment.bounds, hstart, hstop]⟩

/-- The comments of a well tokenised text have different bounds. -/
lemma nodup_bounds_comments (h : WellTokenised text root) :
    ((Document.ofPlaced text root).comments.map Comment.bounds).Nodup := by
  refine List.pairwise_map.mpr (h.pairwise_comments.imp fun {a b} hbefore heq => ?_)
  have hnonempty := a.start_lt_stop
  have hstart : a.start = b.start := congrArg Prod.fst heq
  omega

/-- The candidates and the comments of a well tokenised text have the same bounds, each once. -/
lemma perm_bounds_commentCandidates (h : WellTokenised text root) :
    ((Document.ofPlaced text root).commentCandidates.map fun c => c.bounds).Perm
      ((Document.ofPlaced text root).comments.map Comment.bounds) := by
  refine (List.perm_ext_iff_of_nodup (Document.nodup_bounds_commentCandidates _)
    h.nodup_bounds_comments).mpr fun bounds => ?_
  constructor
  · intro hmem
    obtain ⟨c, hc, rfl⟩ := List.mem_map.mp hmem
    obtain ⟨-, -, comment, hcomment, hbounds⟩ :=
      Document.exists_comment_of_mem_commentCandidates hc
    exact List.mem_map.mpr ⟨comment, hcomment, hbounds.symm⟩
  · intro hmem
    obtain ⟨comment, hcomment, rfl⟩ := List.mem_map.mp hmem
    obtain ⟨c, hc, hbounds⟩ := h.exists_mem_commentCandidates hcomment
    exact List.mem_map.mpr ⟨c, hc, hbounds⟩

/-- The candidates of comments in a well tokenised text are the marks of the comment nodes. -/
lemma mem_commentCandidates_iff (h : WellTokenised text root) {c : Candidate} :
    c ∈ (Document.ofPlaced text root).commentCandidates ↔
      ∃ node ∈ root.commentNodes, c ∈ mark node .javascript := by
  have hmark : ∀ {c : Candidate} {node : Node} {comment : Comment},
      c ∈ (Document.ofPlaced text root).commentCandidates →
      commentAt? text node = some comment → c.bounds = comment.bounds →
      c ∈ mark node .javascript := by
    intro c node comment hc hat hbounds
    obtain ⟨hlayer, hpriority, -⟩ := Document.exists_comment_of_mem_commentCandidates hc
    obtain ⟨hstart, hstop⟩ := commentAt?_eq_some hat
    rw [mark, mem_claim]
    exact ⟨(congrArg Prod.fst hbounds).trans hstart, (congrArg Prod.snd hbounds).trans hstop,
      hlayer, hpriority⟩
  constructor
  · intro hc
    obtain ⟨-, -, comment, hcomment, hbounds⟩ :=
      Document.exists_comment_of_mem_commentCandidates hc
    obtain ⟨node, hnode, hat⟩ := Document.mem_comments_iff.mp hcomment
    exact ⟨node, hnode, hmark hc hat hbounds⟩
  · rintro ⟨node, hnode, hc⟩
    obtain ⟨comment, hat⟩ : ∃ comment, commentAt? text node = some comment :=
      exists_commentAt? (h.comment_lt hnode)
    obtain ⟨d, hd, hbounds⟩ :=
      h.exists_mem_commentCandidates (Document.mem_comments_iff.mpr ⟨node, hnode, hat⟩)
    -- there is only one candidate on the bounds of the node
    have hsame : c = d := by
      have hfirst := Option.mem_toList.mp hc
      have hsecond := Option.mem_toList.mp (hmark hd hat hbounds)
      exact Option.some.inj (hfirst.symm.trans hsecond)
    exact hsame ▸ hd

end WellTokenised

/-- **The scan finds the comments**: for a tree on the boundaries of its text there is a document.
For whatever document there is, the candidates of comments have different bounds, each of them the
bounds of a comment, in the base language. In a well tokenised text none is missed, wherever it
stands: candidates and comments have the same bounds, each as often. -/
theorem commentCandidates_exact (text : List Char) (tree : Node) :
    (OnBoundaries text tree →
      ∃ document, Document.ofTree (SourceText.ofText text) tree = .ok document) ∧
    ∀ document, Document.ofTree (SourceText.ofText text) tree = .ok document →
      (document.commentCandidates.map fun c => c.bounds).Nodup ∧
        (∀ c ∈ document.commentCandidates, c.layer = .javascript ∧ c.priority = 1 ∧
          ∃ comment ∈ document.comments, c.bounds = comment.bounds) ∧
        (WellTokenised text document.root →
          (document.commentCandidates.map fun c => c.bounds).Perm
            (document.comments.map Comment.bounds)) := by
  refine ⟨fun hboundaries => ?_, fun document hdocument => ?_⟩
  · obtain ⟨document, hdocument, -⟩ := Document.exists_document hboundaries
    exact ⟨document, hdocument⟩
  · obtain ⟨root, -, rfl⟩ := Document.ofTree_eq_ok_iff.mp hdocument
    refine ⟨Document.nodup_bounds_commentCandidates _, fun c hc => ?_, fun h => ?_⟩
    · exact Document.exists_comment_of_mem_commentCandidates hc
    · exact h.perm_bounds_commentCandidates

/-- A block between comments, one of them in its braces. -/
def bracedText : List Char :=
  "//a\n\x7b/*é*/\x7d //b".toList

/-- The tree of the block, whose end is `stop` and whose second comment ends at `inner`. -/
def bracedTree (inner stop : Nat) : Node :=
  .construct "program" 0 stop
    [.construct "comment" 0 3 [],
      .construct "statement_block" 4 (inner + 1)
        [.token "\x7b" 4 5, .construct "comment" 5 inner [], .token "\x7d" inner (inner + 1)],
      .construct "comment" (inner + 2) stop []]

/-- Each of the three comments has its candidate, with bounds in characters. -/
theorem commentCandidates_braced :
    ∃ document, Document.ofTree (SourceText.ofText bracedText) (bracedTree 11 16) = .ok document ∧
      WellTokenised bracedText document.root ∧
      (document.commentCandidates.map fun c => c.bounds).Perm [(0, 3), (5, 10), (12, 15)] := by
  obtain ⟨-, hexact⟩ := commentCandidates_exact bracedText (bracedTree 11 16)
  have hdocument : Document.ofTree (SourceText.ofText bracedText) (bracedTree 11 16) =
      .ok (Document.ofPlaced bracedText (bracedTree 10 15)) := by rfl
  have htokenised : WellTokenised bracedText (bracedTree 10 15) := by decide +kernel
  have hcomments := (Document.perm_comments bracedText (bracedTree 10 15)).map Comment.bounds
  have hnodes : (((bracedTree 10 15).commentNodes.filterMap (commentAt? bracedText)).map
      Comment.bounds) = [(0, 3), (5, 10), (12, 15)] := by decide +kernel
  rw [hnodes] at hcomments
  exact ⟨_, hdocument, htokenised, ((hexact _ hdocument).2.2 htokenised).trans hcomments⟩

end SourceLayers
