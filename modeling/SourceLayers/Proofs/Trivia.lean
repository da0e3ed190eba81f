/-
No comment is missed:

* `WellTokenised`: tokens and comments are not empty and lie apart, and all other characters are
  blank, as a parser leaves a text that it has read to the end;
* `mem_commentRun`: a run goes on as long as there are only blanks between its comments;
* `Document.IsTriviaStart`: where the trivia before an offset begin. It is what the search finds
  before a node (`isTriviaStart_fullStart`) and at the end (`isTriviaStart_lastTokenEnd`);
* `mem_leadingComments`: the trivia that begin before a comment lead to it;
* `exists_commentCandidate`: a comment that is met has a candidate.

Main statement: `mem_metComments`, that every comment of a well tokenised text is met, from the next
token or at the end of the text.
-/
import Mathlib.Tactic
import SourceLayers.Document.Trivia
import SourceLayers.Proofs.Emission
import SourceLayers.Proofs.Search
import SourceLayers.Proofs.Summary
import SourceLayers.Proofs.Tree

namespace SourceLayers

/-! ### Well tokenised texts -/

/-- Whether an offset lies in the span of a node. -/
def Node.Spans (node : Node) (p : Nat) : Prop :=
  node.start ≤ p ∧ p < node.stop

/-- Whether the spans of two nodes have no offset in common, one of them ending before the other
begins. -/
def Node.Apart (a b : Node) : Prop :=
  a.stop ≤ b.start ∨ b.stop ≤ a.start

instance (node : Node) (p : Nat) : Decidable (node.Spans p) :=
  inferInstanceAs (Decidable (_ ∧ _))

instance (a b : Node) : Decidable (a.Apart b) :=
  inferInstanceAs (Decidable (_ ∨ _))

/-- The tokens and comments of a tree: the nodes that make up its text. Nothing below a comment is
looked at. -/
def Node.pieces (root : Node) : List Node :=
  root.tokenNodes ++ root.commentNodes

/-- Tokens and comments are not empty and lie apart, and every other character of the text is
blank. -/
@[mk_iff]
structure WellTokenised (text : List Char) (root : Node) : Prop where
  nonempty : ∀ node ∈ root.pieces, node.start < node.stop
  apart : root.pieces.Pairwise Node.Apart
  blank : ∀ p (hp : p < text.length), (∀ node ∈ root.pieces, ¬ node.Spans p) →
    isBlank text[p] = true

instance (text : List Char) (root : Node) : Decidable (WellTokenised text root) :=
  decidable_of_iff _ (wellTokenised_iff text root).symm

variable {text : List Char} {root : Node}

namespace WellTokenised

lemma token_lt (h : WellTokenised text root) {token : Node} (ht : token ∈ root.tokenNodes) :
    token.start < token.stop :=
  h.nonempty token (List.mem_append_left _ ht)

lemma comment_lt (h : WellTokenised text root) {node : Node} (hn : node ∈ root.commentNodes) :
    node.start < node.stop :=
  h.nonempty node (List.mem_append_right _ hn)

/-- A token lies before a comment or after it. -/
lemma token_apart (h : WellTokenised text root) {token node : Node}
    (ht : token ∈ root.tokenNodes) (hn : node ∈ root.commentNodes) : token.Apart node :=
  (List.pairwise_append.mp h.apart).2.2 token ht node hn

end WellTokenised

lemma commentAt?_eq_some {node : Node} {comment : Comment}
    (h : commentAt? text node = some comment) :
    comment.start = node.start ∧ comment.stop = node.stop := by
  rw [commentAt?] at h
  split at h
  · cases h
    exact ⟨rfl, rfl⟩
  · cases h

/-- A node with extent has a comment. -/
lemma exists_commentAt? {node : Node} (h : node.start < node.stop) :
    ∃ comment, commentAt? text node = some comment :=
  ⟨_, dif_pos h⟩

/-- The comments of a well tokenised text follow on each other without overlap. -/
lemma WellTokenised.pairwise_comments (h : WellTokenised text root) :
    (Document.ofPlaced text root).comments.Pairwise fun a b => a.stop ≤ b.start := by
  have hapart : (Document.ofPlaced text root).comments.Pairwise fun a b =>
      a.stop ≤ b.start ∨ b.stop ≤ a.start := by
    refine (Document.perm_comments text root).symm.pairwise ?_ fun {a b} hab => hab.symm
    refine List.pairwise_filterMap.mpr ?_
    refine (List.pairwise_append.mp h.apart).2.1.imp fun {a b} hab c hc d hd => ?_
    obtain ⟨hcstart, hcstop⟩ := commentAt?_eq_some hc
    obtain ⟨hdstart, hdstop⟩ := commentAt?_eq_some hd
    rw [hcstart, hcstop, hdstart, hdstop]
    exact_mod_cast hab
  -- sorted by their starts, of two that are apart the first one ends first
  refine (hapart.and (Document.pairwise_comments text root)).imp fun {a b} hab => ?_
  obtain ⟨hside, hstart⟩ := hab
  have hnonempty := b.start_lt_stop
  omega

/-! ### Runs of comments -/

/-- The gap between two offsets of the text is there exactly if it is blank. -/
lemma gapBetween?_eq_some_iff {start stop : Int} {gap : List Char} (hstart : 0 ≤ start)
    (hstop : 0 ≤ stop) :
    gapBetween? text start stop = some gap ↔
      gap = cut text start.toNat stop.toNat ∧
        isBlankText (cut text start.toNat stop.toNat) = true := by
  rw [gapBetween?, boundOffset, boundOffset, if_neg (by omega), if_neg (by omega)]
  simp only [blankGap?_eq]
  rw [Option.ite_none_right_eq_some, Option.some_inj, eq_comm (b := gap)]
  exact and_comm

/-- Between offsets with nothing but blanks in between there is a gap. -/
lemma exists_gapBetween? {a b : Int} (ha : 0 ≤ a) (hb : 0 ≤ b)
    (h : ∀ (p : Nat) c, text[p]? = some c → a ≤ p → (p : Int) < b → isBlank c = true) :
    ∃ gap, gapBetween? text a b = some gap := by
  refine ⟨_, (gapBetween?_eq_some_iff ha hb).mpr ⟨rfl, ?_⟩⟩
  refine List.all_eq_true.mpr fun c hc => ?_
  obtain ⟨i, hi, hget⟩ := List.mem_take_iff_getElem.mp hc
  rw [List.getElem_drop] at hget
  rw [List.length_drop] at hi
  refine h (a.toNat + i) c ?_ (by omega) (by omega)
  rw [← hget]
  exact List.getElem?_eq_getElem _

/-- A run goes on as long as there are only blanks between its comments. -/
lemma mem_commentRun {comments : List Comment} {cursor : Int} {comment : Comment}
    (hcursor : 0 ≤ cursor) (hapart : comments.Pairwise fun a b => a.stop ≤ b.start)
    (hfrom : ∀ d ∈ comments, cursor ≤ d.start)
    (hblank : ∀ (p : Nat) c, text[p]? = some c → cursor ≤ p → (p : Int) < comment.start →
      (∀ d ∈ comments, ¬ (d.start ≤ p ∧ p < d.stop)) → isBlank c = true)
    (hmem : comment ∈ comments) : comment ∈ commentRun text false cursor comments := by
  induction comments generalizing cursor with
  | nil => cases hmem
  | cons first rest ih =>
      obtain ⟨hbefore, hapart⟩ := List.pairwise_cons.mp hapart
      have hfirst := hfrom first List.mem_cons_self
      have hnonempty := first.start_lt_stop
      have hle : first.start ≤ comment.start := by
        rcases List.mem_cons.mp hmem with rfl | hrest
        · exact le_rfl
        · have := hbefore comment hrest
          omega
      -- up to the first comment of the list there is no other one
      obtain ⟨gap, hgap⟩ : ∃ gap, gapBetween? text cursor first.start = some gap := by
        refine exists_gapBetween? hcursor (by omega) fun p c hc hp hlt => ?_
        refine hblank p c hc hp (by omega) fun d hd => ?_
        rcases List.mem_cons.mp hd with rfl | hrest
        · omega
        · have := hbefore d hrest
          omega
      rw [commentRun, hgap]
      simp only [Bool.false_and, Bool.false_eq_true, if_false]
      rcases List.mem_cons.mp hmem with rfl | hrest
      · exact List.mem_cons_self
      · refine List.mem_cons_of_mem _ (ih (by omega) hapart hbefore ?_ hrest)
        intro p c hc hp hlt hnone
        refine hblank p c hc (by omega) hlt fun d hd => ?_
        rcases List.mem_cons.mp hd with rfl | hd
        · omega
        · exact hnone d hd

/-- The comments from an offset on. -/
lemma mem_dropWhile_start_lt {comments : List Comment} {offset : Int} {comment : Comment}
    (hsorted : comments.Pairwise fun a b => a.start ≤ b.start) :
    comment ∈ comments.dropWhile (fun d => decide (d.start < offset)) ↔
      comment ∈ comments ∧ offset ≤ comment.start := by
  induction comments with
  | nil => simp
  | cons first rest ih =>
      obtain ⟨hfirst, hsorted⟩ := List.pairwise_cons.mp hsorted
      by_cases hlt : first.start < offset
      · rw [List.dropWhile_cons_of_pos (by simpa using hlt), ih hsorted, List.mem_cons]
        constructor
        · rintro ⟨hmem, hle⟩
          exact ⟨Or.inr hmem, hle⟩
        · rintro ⟨rfl | hmem, hle⟩
          · omega
          · exact ⟨hmem, hle⟩
      · rw [List.dropWhile_cons_of_neg (by simpa using hlt)]
        refine ⟨fun hmem => ⟨hmem, ?_⟩, fun h => h.1⟩
        rcases List.mem_cons.mp hmem with rfl | hrest
        · omega
        · have := hfirst comment hrest
          omega

namespace Document

/-! ### Where trivia begin -/

/-- The trivia before an offset begin at the last end of a token that is not beyond the offset, or
at the start of the text. -/
structure IsTriviaStart (document : Document) (offset t : Int) : Prop where
  bound : t = 0 ∨ t ∈ document.tokenEnds
  le : t ≤ offset
  last : ∀ e ∈ document.tokenEnds, e ≤ offset → e ≤ t

variable {document : Document}

/-- The ends of the tokens, by their places. -/
lemma exists_getD_of_mem_tokenEnds {e : Int} (h : e ∈ document.tokenEnds) :
    ∃ i < document.tokenEnds.size, document.tokenEnds.getD i 0 = e := by
  obtain ⟨i, hi, hget⟩ := Array.mem_iff_getElem.mp h
  exact ⟨i, hi, by simpa [Array.getD, hi] using hget⟩

lemma getD_mem_tokenEnds {i : Nat} (hi : i < document.tokenEnds.size) :
    document.tokenEnds.getD i 0 ∈ document.tokenEnds := by
  simp [Array.getD, hi]

/-- The full start of a node is where the trivia before it begin. -/
lemma isTriviaStart_fullStart (hsorted : document.tokenEnds.toList.Pairwise (· ≤ ·))
    (node : Node) : document.IsTriviaStart node.start (document.fullStart node) := by
  obtain ⟨hsize, hbefore, hafter⟩ := countLessEq_spec hsorted (node.start : Int)
  -- the ends up to the start of the node are those that the search counts
  have hcounted : ∀ e ∈ document.tokenEnds, e ≤ node.start →
      ∃ i < countLessEq document.tokenEnds node.start, document.tokenEnds.getD i 0 = e := by
    intro e he hle
    obtain ⟨i, hi, rfl⟩ := exists_getD_of_mem_tokenEnds he
    refine ⟨i, ?_, rfl⟩
    by_contra hge
    have := hafter i (by omega) hi
    omega
  rw [fullStart]
  split
  · rename_i hzero
    refine ⟨Or.inl rfl, by omega, fun e he hle => ?_⟩
    obtain ⟨i, hi, -⟩ := hcounted e he hle
    omega
  · rename_i i hsucc
    refine ⟨Or.inr (getD_mem_tokenEnds (by omega)), hbefore i (by omega), fun e he hle => ?_⟩
    obtain ⟨j, hj, rfl⟩ := hcounted e he hle
    exact getD_le_getD hsorted (by omega) (by omega)

/-- The trivia at the end of the text begin at the last token end. -/
lemma isTriviaStart_lastTokenEnd (hsorted : document.tokenEnds.toList.Pairwise (· ≤ ·))
    {offset : Int} (hoffset : 0 ≤ offset) (h : ∀ e ∈ document.tokenEnds, e ≤ offset) :
    document.IsTriviaStart offset document.lastTokenEnd := by
  rw [lastTokenEnd, Array.back?_eq_getElem?]
  by_cases hempty : document.tokenEnds.size = 0
  · rw [Array.getElem?_eq_none (by omega)]
    refine ⟨Or.inl rfl, hoffset, fun e he _ => ?_⟩
    obtain ⟨i, hi, -⟩ := exists_getD_of_mem_tokenEnds he
    omega
  · have hlt : document.tokenEnds.size - 1 < document.tokenEnds.size := by omega
    have hmem := getD_mem_tokenEnds hlt
    rw [← Array.getD_eq_getD_getElem?]
    refine ⟨Or.inr hmem, h _ hmem, fun e he _ => ?_⟩
    obtain ⟨i, hi, rfl⟩ := exists_getD_of_mem_tokenEnds he
    exact getD_le_getD hsorted (by omega) hlt

end Document

/-! ### Comments that are met -/

/-- The trivia that begin at the last token end before a comment lead to the comment: what lies
between is no token, and the comments there belong to the same run. -/
lemma WellTokenised.mem_leadingComments (h : WellTokenised text root) {comment : Comment}
    (hmem : comment ∈ (Document.ofPlaced text root).comments) {t : Int}
    (ht : (Document.ofPlaced text root).IsTriviaStart comment.start t) :
    comment ∈ (Document.ofPlaced text root).leadingComments t := by
  have hcomments := Document.pairwise_comments text root
  have hzero : 0 ≤ t := by
    rcases ht.bound with rfl | hend
    · exact le_rfl
    · obtain ⟨token, -, rfl⟩ := Document.mem_tokenEnds_iff.mp hend
      omega
  refine mem_commentRun hzero (h.pairwise_comments.sublist (List.dropWhile_sublist _)) ?_ ?_
    ((mem_dropWhile_start_lt hcomments).mpr ⟨hmem, ht.le⟩)
  · exact fun d hd => ((mem_dropWhile_start_lt hcomments).mp hd).2
  intro p c hc hp hlt hnone
  obtain ⟨node, hnode, hat⟩ := Document.mem_comments_iff.mp hmem
  obtain ⟨hstart, hstop⟩ := commentAt?_eq_some hat
  obtain ⟨hlength, rfl⟩ := List.getElem?_eq_some_iff.mp hc
  refine h.blank p hlength fun piece hpiece hspans => ?_
  obtain ⟨hfirst, hlast⟩ := hspans
  rcases List.mem_append.mp hpiece with htoken | hcomment
  · -- a token at `p` ends before the comment and after `t`
    have hend : (piece.stop : Int) ∈ (Document.ofPlaced text root).tokenEnds :=
      Document.mem_tokenEnds_iff.mpr ⟨piece, htoken, rfl⟩
    have hnonempty := h.comment_lt hnode
    rcases h.token_apart htoken hnode with hbefore | hafter
    · have := ht.last _ hend (by omega)
      omega
    · omega
  · obtain ⟨d, hd⟩ := exists_commentAt? (h.comment_lt hcomment)
    obtain ⟨hdstart, hdstop⟩ := commentAt?_eq_some hd
    have hdmem := Document.mem_comments_iff.mpr ⟨piece, hcomment, hd⟩
    -- a comment at `p` that starts before `t` would overlap the token that ends there
    rcases ht.bound with rfl | hend
    · refine hnone d ((mem_dropWhile_start_lt hcomments).mpr ⟨hdmem, by omega⟩) (by omega)
    · obtain ⟨token, htoken, rfl⟩ := Document.mem_tokenEnds_iff.mp hend
      have hnonempty := h.token_lt htoken
      rcases h.token_apart htoken hcomment with hbefore | hafter
      · refine hnone d ((mem_dropWhile_start_lt hcomments).mpr ⟨hdmem, by omega⟩) (by omega)
      · omega

namespace Document

lemma commentsWithin_eq (document : Document) (node : Node) :
    document.commentsWithin node =
      document.commentsAround node ++ document.commentsWithinAll node.children := by
  cases node
  rfl

lemma commentsWithinAll_eq_flatMap (document : Document) (nodes : List Node) :
    document.commentsWithinAll nodes =
      nodes.flatMap fun child => if child.isComment then [] else document.commentsWithin child := by
  induction nodes with
  | nil => rfl
  | cons first rest ih => rw [commentsWithinAll, ih, List.flatMap_cons]

/-- The comments around a token are met on the way to it. -/
lemma mem_commentsWithin_of_token {document : Document} {node token : Node} {comment : Comment}
    (htoken : token ∈ node.tokenNodes) (hmem : comment ∈ document.commentsAround token) :
    comment ∈ document.commentsWithin node := by
  induction node using Node.ind with
  | _ node ih =>
      rw [commentsWithin_eq]
      rw [Node.tokenNodes_eq] at htoken
      split at htoken
      · cases htoken
      split at htoken
      · rw [List.mem_singleton.mp htoken] at hmem
        exact List.mem_append_left _ hmem
      · rw [Node.tokenNodesAll_eq_flatMap] at htoken
        obtain ⟨child, hchild, hbelow⟩ := List.mem_flatMap.mp htoken
        -- there are no tokens in a comment
        have hcomment : ¬ child.isComment = true := by
          intro hcomment
          rw [Node.tokenNodes_eq, if_pos hcomment] at hbelow
          cases hbelow
        rw [commentsWithinAll_eq_flatMap]
        refine List.mem_append_right _ (List.mem_flatMap.mpr ⟨child, hchild, ?_⟩)
        rw [if_neg hcomment]
        exact ih child hchild hbelow

end Document

/-- **No comment is missed**: every comment of a well tokenised text is met, from the token after it
or, if there is none, at the end of the text. -/
theorem WellTokenised.mem_metComments (h : WellTokenised text root) {comment : Comment}
    (hmem : comment ∈ (Document.ofPlaced text root).comments) :
    comment ∈ (Document.ofPlaced text root).metComments := by
  have hsorted := Document.pairwise_tokenEnds text root
  obtain ⟨node, hnode, hat⟩ := Document.mem_comments_iff.mp hmem
  obtain ⟨hstart, hstop⟩ := commentAt?_eq_some hat
  have hnonempty := h.comment_lt hnode
  by_cases hnext : ∃ i, ∃ token ∈ root.tokenNodes, node.stop ≤ token.start ∧ token.start = i
  · classical
    -- the first of the tokens after the comment
    obtain ⟨token, htoken, hafter, hfind⟩ := Nat.find_spec hnext
    have hfirst : ∀ other ∈ root.tokenNodes, node.stop ≤ other.start →
        token.start ≤ other.start := by
      intro other hother hle
      rw [hfind]
      exact Nat.find_min' hnext ⟨other, hother, hle, rfl⟩
    have hfull := Document.isTriviaStart_fullStart hsorted token
    have htrivia : (Document.ofPlaced text root).IsTriviaStart comment.start
        ((Document.ofPlaced text root).fullStart token) := by
      refine ⟨hfull.bound, ?_, fun e he hle => hfull.last e he (by omega)⟩
      rcases hfull.bound with hzero | hend
      · omega
      · -- the token that ends there is none of those after the comment
        obtain ⟨other, hother, hend⟩ := Document.mem_tokenEnds_iff.mp hend
        have hlt := h.token_lt hother
        have hle := hfull.le
        rcases h.token_apart hother hnode with hbefore | hbeyond
        · omega
        · have := hfirst other hother hbeyond
          omega
    refine List.mem_append_left _ (Document.mem_commentsWithin_of_token htoken ?_)
    refine List.mem_append_left _ ?_
    have hlt : (Document.ofPlaced text root).fullStart token < token.start := by
      have := htrivia.le
      omega
    rw [if_pos hlt]
    exact h.mem_leadingComments hmem htrivia
  · refine List.mem_append_right _ (h.mem_leadingComments hmem ?_)
    refine Document.isTriviaStart_lastTokenEnd hsorted (by omega) fun e he => ?_
    obtain ⟨token, htoken, rfl⟩ := Document.mem_tokenEnds_iff.mp he
    rcases h.token_apart htoken hnode with hbefore | hafter
    · omega
    · exact absurd ⟨_, token, htoken, hafter, rfl⟩ hnext

/-! ### Candidates of comments -/

/-- Whatever is dropped from a list without duplicates has a counterpart that is kept. -/
lemma exists_mem_eraseDupsBy_sameBounds {comments : List Comment} {comment : Comment}
    (hmem : comment ∈ comments) :
    ∃ kept ∈ comments.eraseDupsBy Comment.sameBounds,
      kept.start = comment.start ∧ kept.stop = comment.stop := by
  -- by the length, since what follows a kept comment is filtered
  induction hlength : comments.length using Nat.strong_induction_on generalizing comments with
  | _ length ih =>
      cases comments with
      | nil => cases hmem
      | cons first rest =>
          rw [List.eraseDupsBy_cons]
          by_cases hsame : Comment.sameBounds comment first = true
          · refine ⟨first, List.mem_cons_self, ?_⟩
            simp only [Comment.sameBounds, Bool.and_eq_true, beq_iff_eq] at hsame
            exact ⟨hsame.1.symm, hsame.2.symm⟩
          · have hrest : comment ∈ rest := by
              rcases List.mem_cons.mp hmem with rfl | hrest
              · exact absurd (by simp [Comment.sameBounds]) hsame
              · exact hrest
            have hfiltered : comment ∈ rest.filter fun b => b.sameBounds first = false :=
              List.mem_filter.mpr ⟨hrest, by simpa using hsame⟩
            have hshorter : (rest.filter fun b => b.sameBounds first = false).length < length := by
              rw [← hlength, List.length_cons]
              exact Nat.lt_succ_of_le (List.length_filter_le _ _)
            obtain ⟨kept, hkept, hbounds⟩ := ih _ hshorter hfiltered rfl
            exact ⟨kept, List.mem_cons_of_mem _ hkept, hbounds⟩

/-- A comment that is met has a candidate on its bounds. -/
lemma exists_commentCandidate {document : Document} {comment : Comment}
    (hmem : comment ∈ document.metComments) (hstart : 0 ≤ comment.start) :
    ∃ c ∈ document.commentCandidates,
      (c.start : Int) = comment.start ∧ (c.stop : Int) = comment.stop := by
  obtain ⟨kept, hkept, hbounds⟩ := exists_mem_eraseDupsBy_sameBounds hmem
  have hnonempty := kept.start_lt_stop
  obtain ⟨c, hc⟩ : ∃ c, Candidate.make? kept.start kept.stop .javascript = some c :=
    ⟨_, dif_pos (by omega)⟩
  obtain ⟨hcstart, hcstop, -⟩ := make?_eq_some_iff.mp hc
  refine ⟨c, List.mem_filterMap.mpr ⟨kept, hkept, hc⟩, ?_, ?_⟩
  · rw [hcstart, hbounds.1]
  · rw [hcstop, hbounds.2]

/-- The candidates of comments are standard. -/
lemma standard_commentCandidates (document : Document) : Standard document.commentCandidates := by
  intro c hc
  obtain ⟨comment, -, hmake⟩ := List.mem_filterMap.mp hc
  obtain ⟨hlayer, hpriority⟩ := Candidate.priority_of_make? hmake
  rw [hpriority, hlayer]

end SourceLayers
