/-
Runs of comments:

* `countLess`: the number of entries below a value, by halving search. Among the starts of sorted
  comments it is where those from an offset on begin (`dropWhile_eq_drop_countLess`);
* `gaps`: the characters before each comment of a run, from an offset on;
* `StaysOnLine`: a run without line feeds in its gaps, in which a line comment is the last;
* `IsRun`: a run whose gaps are blank, and which stays on the line if it is to;
* `IsLongest`: a longest beginning of a list with some property. There is one at most, since every
  other one is a beginning of it;
* `isLongest_commentRun`: the loop finds the longest run.

Main statement: `commentRuns_longest`.
-/
import Mathlib.Tactic
import SourceLayers.Proofs.Outer

namespace SourceLayers

/-! ### Where a run begins -/

/-- The number of entries that are below a value, in an array sorted upwards. -/
def countLess (entries : Array Int) (value : Int) : Nat :=
  partitionPoint (fun i => decide (entries.getD i 0 < value)) 0 entries.size

lemma countLess_eq_countLessEq (entries : Array Int) (value : Int) :
    countLess entries value = countLessEq entries (value - 1) := by
  have htest : ∀ i, (entries.getD i 0 < value) = (entries.getD i 0 ≤ value - 1) := by
    intro i
    exact propext (by omega)
  simp only [countLess, countLessEq, htest]

/-- The starts of comments, as the search reads them. -/
def commentStarts (comments : List Comment) : Array Int :=
  (comments.map Comment.start).toArray

variable {comments : List Comment} {offset : Int}

lemma getD_commentStarts {i : Nat} (hi : i < comments.length) :
    (commentStarts comments).getD i 0 = comments[i].start := by
  simp [commentStarts, Array.getD, hi]

/-- Among sorted comments those from an offset on begin where the search ends. -/
lemma dropWhile_eq_drop_countLess (hsorted : comments.Pairwise fun a b => a.start ≤ b.start)
    (offset : Int) :
    (∀ comment ∈ comments.take (countLess (commentStarts comments) offset),
        comment.start < offset) ∧
      comments.dropWhile (fun comment => decide (comment.start < offset)) =
        comments.drop (countLess (commentStarts comments) offset) := by
  have hstarts : (commentStarts comments).toList.Pairwise (· ≤ ·) := List.pairwise_map.mpr hsorted
  obtain ⟨-, hbefore, hafter⟩ := countLessEq_spec hstarts (offset - 1)
  rw [← countLess_eq_countLessEq] at hbefore hafter
  generalize countLess (commentStarts comments) offset = first at hbefore hafter ⊢
  have htake : ∀ comment ∈ comments.take first, comment.start < offset := by
    intro comment hcomment
    obtain ⟨i, hi, rfl⟩ := List.mem_take_iff_getElem.mp hcomment
    have hstart := hbefore i (by omega)
    rw [getD_commentStarts (by omega)] at hstart
    omega
  refine ⟨htake, ?_⟩
  conv_lhs => rw [← List.take_append_drop first comments]
  rw [List.dropWhile_append_of_pos fun comment hcomment => decide_eq_true (htake comment hcomment)]
  by_cases hfirst : first < comments.length
  · have hstart := hafter first le_rfl (by simpa [commentStarts] using hfirst)
    rw [getD_commentStarts hfirst] at hstart
    rw [List.drop_eq_getElem_cons hfirst, List.dropWhile_cons_of_neg]
    simp only [decide_eq_true_eq]
    omega
  · rw [List.drop_eq_nil_of_le (by omega), List.dropWhile_nil]

/-! ### Gaps -/

/-- The characters before each comment of a run, from an offset to the first of them and then from
the end of one to the start of the next; none where the next one starts earlier. -/
def gaps (text : List Char) : (offset : Int) → List Comment → List (List Char)
  | _, [] => []
  | offset, comment :: rest =>
    cut text offset.toNat comment.start.toNat :: gaps text comment.stop rest

/-- A run that stays on one line: no gap has a line feed, and a line comment is the last. -/
structure StaysOnLine (text : List Char) (offset : Int) (run : List Comment) : Prop where
  gaps : ∀ gap ∈ gaps text offset run, '\n' ∉ gap
  comments : ∀ comment ∈ run.dropLast, comment.isLine = false

/-- A run of comments from an offset on: there are only blanks between them, and it stays on the
line if it is to. -/
structure IsRun (text : List Char) (sameLine : Bool) (offset : Int) (run : List Comment) :
    Prop where
  blank : ∀ gap ∈ gaps text offset run, isBlankText gap = true
  onLine : sameLine = true → StaysOnLine text offset run

variable {text : List Char} {sameLine : Bool} {run rest : List Comment} {comment : Comment}

lemma isRun_nil : IsRun text sameLine offset [] :=
  ⟨by simp [gaps], fun _ => ⟨by simp [gaps], by simp⟩⟩

lemma staysOnLine_cons_iff :
    StaysOnLine text offset (comment :: rest) ↔
      '\n' ∉ cut text offset.toNat comment.start.toNat ∧
        (rest ≠ [] → comment.isLine = false) ∧ StaysOnLine text comment.stop rest := by
  have hlast : (∀ d ∈ (comment :: rest).dropLast, d.isLine = false) ↔
      (rest ≠ [] → comment.isLine = false) ∧ ∀ d ∈ rest.dropLast, d.isLine = false := by
    cases rest with
    | nil => simp
    | cons next more => simp
  constructor
  · rintro ⟨hgaps, hcomments⟩
    rw [gaps, List.forall_mem_cons] at hgaps
    obtain ⟨hcomment, hrest⟩ := hlast.mp hcomments
    exact ⟨hgaps.1, hcomment, hgaps.2, hrest⟩
  · rintro ⟨hgap, hcomment, hgaps, hrest⟩
    refine ⟨?_, hlast.mpr ⟨hcomment, hrest⟩⟩
    rw [gaps, List.forall_mem_cons]
    exact ⟨hgap, hgaps⟩

/-- A run is its first comment with the gap before it, and a run from the end of that comment on. -/
lemma isRun_cons_iff :
    IsRun text sameLine offset (comment :: rest) ↔
      isBlankText (cut text offset.toNat comment.start.toNat) = true ∧
        (sameLine = true → '\n' ∉ cut text offset.toNat comment.start.toNat ∧
          (rest ≠ [] → comment.isLine = false)) ∧
        IsRun text sameLine comment.stop rest := by
  constructor
  · rintro ⟨hblank, hline⟩
    rw [gaps, List.forall_mem_cons] at hblank
    refine ⟨hblank.1, fun hsame => ?_, hblank.2, fun hsame => ?_⟩
    · obtain ⟨hgap, hcomment, -⟩ := staysOnLine_cons_iff.mp (hline hsame)
      exact ⟨hgap, hcomment⟩
    · exact (staysOnLine_cons_iff.mp (hline hsame)).2.2
  · rintro ⟨hblank, hfirst, hrest⟩
    refine ⟨?_, fun hsame => ?_⟩
    · rw [gaps, List.forall_mem_cons]
      exact ⟨hblank, hrest.blank⟩
    · obtain ⟨hgap, hcomment⟩ := hfirst hsame
      exact staysOnLine_cons_iff.mpr ⟨hgap, hcomment, hrest.onLine hsame⟩

/-! ### Longest runs -/

/-- A longest beginning of a list with some property: every other one is a beginning of it. -/
structure IsLongest {α : Type} (accepts : List α → Prop) (whole run : List α) : Prop where
  initial : run <+: whole
  accepted : accepts run
  longest : ∀ other, other <+: whole → accepts other → other <+: run

/-- Where no run takes the first comment, the longest one is empty. -/
lemma isLongest_nil (h : ∀ more, ¬ IsRun text sameLine offset (comment :: more)) :
    IsLongest (IsRun text sameLine offset) (comment :: rest) [] := by
  refine ⟨List.nil_prefix, isRun_nil, fun other hother hrun => ?_⟩
  rcases List.prefix_cons_iff.mp hother with rfl | ⟨more, rfl, -⟩
  · exact List.nil_prefix
  · exact absurd hrun (h more)

/-- The longest run from a comment that can be taken is that comment and the longest run from its
end. -/
lemma IsLongest.cons (h : IsLongest (IsRun text sameLine comment.stop) rest run)
    (hblank : isBlankText (cut text offset.toNat comment.start.toNat) = true)
    (hfirst : sameLine = true →
      '\n' ∉ cut text offset.toNat comment.start.toNat ∧ comment.isLine = false) :
    IsLongest (IsRun text sameLine offset) (comment :: rest) (comment :: run) := by
  refine ⟨(List.prefix_cons_inj comment).mpr h.initial, ?_, fun other hother hrun => ?_⟩
  · refine isRun_cons_iff.mpr ⟨hblank, fun hsame => ?_, h.accepted⟩
    exact ⟨(hfirst hsame).1, fun _ => (hfirst hsame).2⟩
  · rcases List.prefix_cons_iff.mp hother with rfl | ⟨more, rfl, hmore⟩
    · exact List.nil_prefix
    · exact (List.prefix_cons_inj comment).mpr
        (h.longest more hmore (isRun_cons_iff.mp hrun).2.2)

/-- **The loop finds the longest run**: it goes on as long as there is another comment to take, and
no run goes on where it ends. -/
lemma isLongest_commentRun (hoffset : 0 ≤ offset)
    (hstarts : ∀ comment ∈ comments, 0 ≤ comment.start) :
    IsLongest (IsRun text sameLine offset) comments (commentRun text sameLine offset comments) := by
  fun_induction commentRun text sameLine offset comments with
  | case1 offset =>
      exact ⟨List.prefix_refl _, isRun_nil, fun other hother _ => hother⟩
  | case2 offset comment rest hgap =>
      refine isLongest_nil fun more hrun => ?_
      -- a run that took the comment would have a blank gap before it
      have hblank := (isRun_cons_iff.mp hrun).1
      have hfound := (gapBetween?_eq_some_iff hoffset (hstarts comment List.mem_cons_self)).mpr
        ⟨rfl, hblank⟩
      rw [hgap] at hfound
      cases hfound
  | case3 offset comment rest gap hgap hbreak =>
      obtain ⟨rfl, -⟩ :=
        (gapBetween?_eq_some_iff hoffset (hstarts comment List.mem_cons_self)).mp hgap
      obtain ⟨hsame, hlinefeed⟩ := Bool.and_eq_true_iff.mp hbreak
      refine isLongest_nil fun more hrun => ?_
      exact ((isRun_cons_iff.mp hrun).2.1 hsame).1 (List.contains_iff_mem.mp hlinefeed)
  | case4 offset comment rest gap hgap hbreak hline =>
      obtain ⟨rfl, hblank⟩ :=
        (gapBetween?_eq_some_iff hoffset (hstarts comment List.mem_cons_self)).mp hgap
      obtain ⟨hsame, hisLine⟩ := Bool.and_eq_true_iff.mp hline
      have hfree : '\n' ∉ cut text offset.toNat comment.start.toNat := by
        simpa [hsame] using hbreak
      refine ⟨⟨rest, rfl⟩, ?_, fun other hother hrun => ?_⟩
      · exact isRun_cons_iff.mpr ⟨hblank, fun _ => ⟨hfree, by simp⟩, isRun_nil⟩
      · rcases List.prefix_cons_iff.mp hother with rfl | ⟨more, rfl, -⟩
        · exact List.nil_prefix
        · -- nothing follows on a line comment
          have hmore : more = [] := by
            by_contra hne
            have hblock := ((isRun_cons_iff.mp hrun).2.1 hsame).2 hne
            rw [hisLine] at hblock
            cases hblock
          rw [hmore]
  | case5 offset comment rest gap hgap hbreak hline ih =>
      obtain ⟨rfl, hblank⟩ :=
        (gapBetween?_eq_some_iff hoffset (hstarts comment List.mem_cons_self)).mp hgap
      have hstart := hstarts comment List.mem_cons_self
      have hextent := comment.start_lt_stop
      refine (ih (by omega) fun d hd => hstarts d (List.mem_cons_of_mem _ hd)).cons hblank ?_
      intro hsame
      simpa [hsame] using And.intro hbreak hline

/-! ### Runs on a line -/

lemma gaps_initial (h : run <+: comments) : gaps text offset run <+: gaps text offset comments := by
  induction run generalizing offset comments with
  | nil => exact List.nil_prefix
  | cons comment more ih =>
      obtain ⟨rest, rfl⟩ := h
      exact (List.prefix_cons_inj _).mpr (ih (List.prefix_append more rest))

/-- Without regard to lines a run is one whose gaps are blank. -/
lemma isRun_false_iff :
    IsRun text false offset run ↔ ∀ gap ∈ gaps text offset run, isBlankText gap = true :=
  ⟨IsRun.blank, fun h => ⟨h, fun hsame => by cases hsame⟩⟩

/-- The longest run on the line is the longest beginning, among those of the longest run, that
stays on the line. -/
lemma IsLongest.onLine {leading trailing : List Comment}
    (hleading : IsLongest (IsRun text false offset) comments leading)
    (htrailing : IsLongest (IsRun text true offset) comments trailing) :
    IsLongest (StaysOnLine text offset) leading trailing := by
  have hblank := isRun_false_iff.mpr htrailing.accepted.blank
  refine ⟨hleading.longest trailing htrailing.initial hblank, htrailing.accepted.onLine rfl,
    fun other hother honLine => ?_⟩
  -- a beginning of the longest run has its gaps
  refine htrailing.longest other (hother.trans hleading.initial) ⟨fun gap hgap => ?_, ?_⟩
  · exact hleading.accepted.blank gap ((gaps_initial hother).subset hgap)
  · exact fun _ => honLine

namespace Document

variable {root : Node}

/-- The comments from an offset on do not start before it. -/
lemma le_start_of_mem_commentsFrom (h : comment ∈ (ofPlaced text root).commentsFrom offset) :
    offset ≤ comment.start :=
  ((mem_dropWhile_start_lt (pairwise_comments text root)).mp h).2

/-- From an offset of the text on, the comments of a document give the longest run. -/
lemma isLongest_run (text : List Char) (root : Node) (hoffset : 0 ≤ offset) (sameLine : Bool) :
    IsLongest (IsRun text sameLine offset) ((ofPlaced text root).commentsFrom offset)
      (commentRun text sameLine offset ((ofPlaced text root).commentsFrom offset)) :=
  isLongest_commentRun hoffset fun _ hcomment =>
    hoffset.trans (le_start_of_mem_commentsFrom hcomment)

end Document

/-- **Runs of comments are the longest ones**: for a tree on the boundaries of its text there is a
document. For whatever document there is, and from any offset of the text on, the search finds the
first comment that does not start before the offset; the leading comments are the longest run of
comments from there on with nothing but blanks before each; and the trailing comments are the
longest beginning of the leading ones that stays on the line. -/
theorem commentRuns_longest (text : List Char) (tree : Node) :
    (OnBoundaries text tree →
      ∃ document, Document.ofTree (SourceText.ofText text) tree = .ok document) ∧
    ∀ document, Document.ofTree (SourceText.ofText text) tree = .ok document →
      ∀ offset : Int, 0 ≤ offset →
        let first := countLess (commentStarts document.comments) offset
        (∀ comment ∈ document.comments.take first, comment.start < offset) ∧
          (∀ comment ∈ document.comments.drop first, offset ≤ comment.start) ∧
          IsLongest (fun run => ∀ gap ∈ gaps text offset run, isBlankText gap = true)
            (document.comments.drop first) (document.leadingComments offset) ∧
          IsLongest (StaysOnLine text offset) (document.leadingComments offset)
            (document.trailingComments offset) ∧
          document.trailingComments offset <+: document.leadingComments offset := by
  refine ⟨fun hboundaries => ?_, fun document hdocument offset hoffset => ?_⟩
  · obtain ⟨document, hdocument, -⟩ := Document.exists_document hboundaries
    exact ⟨document, hdocument⟩
  · obtain ⟨root, -, rfl⟩ := Document.ofTree_eq_ok_iff.mp hdocument
    obtain ⟨hbefore, hdrop⟩ :=
      dropWhile_eq_drop_countLess (Document.pairwise_comments text root) offset
    have hleading := Document.isLongest_run text root hoffset false
    have honLine := hleading.onLine (Document.isLongest_run text root hoffset true)
    have hblank : IsRun text false offset =
        fun run => ∀ gap ∈ gaps text offset run, isBlankText gap = true :=
      funext fun _ => propext isRun_false_iff
    intro first
    have hfrom : (Document.ofPlaced text root).commentsFrom offset =
        (Document.ofPlaced text root).comments.drop first := hdrop
    refine ⟨hbefore, fun comment hcomment => ?_, ?_, honLine, honLine.initial⟩
    · rw [← hfrom] at hcomment
      exact Document.le_start_of_mem_commentsFrom hcomment
    · rw [← hfrom, ← hblank]
      exact hleading

/-- Comments on two lines. -/
def scatteredText : List Char :=
  "a /*b*/ //c\n//d".toList

/-- A tree of that text in which one comment lies in another. -/
def scatteredTree : Node :=
  .construct "program" 0 15
    [.construct "identifier" 0 1 [],
      .construct "comment" 2 7 [],
      .construct "comment" 5 7 [],
      .construct "comment" 8 11 [],
      .construct "comment" 12 15 []]

/-- The leading run goes on over the end of the line. The trailing one ends with the comment that
lies in the other, as that opens no block, and the leading run begins with it. -/
theorem commentRuns_longest_scattered :
    OnBoundaries scatteredText scatteredTree ∧
      ∃ document, Document.ofTree (SourceText.ofText scatteredText) scatteredTree = .ok document ∧
        (document.leadingComments 1).map Comment.bounds = [(2, 7), (5, 7), (8, 11), (12, 15)] ∧
        (document.trailingComments 1).map Comment.bounds = [(2, 7), (5, 7)] ∧
        document.trailingComments 1 <+: document.leadingComments 1 := by
  have hboundaries : OnBoundaries scatteredText scatteredTree := by decide +kernel
  obtain ⟨-, hruns⟩ := commentRuns_longest scatteredText scatteredTree
  have hdocument : Document.ofTree (SourceText.ofText scatteredText) scatteredTree =
      .ok (Document.ofPlaced scatteredText scatteredTree) := by rfl
  obtain ⟨-, -, -, -, hinitial⟩ := hruns _ hdocument 1 (by decide)
  -- the comments of this tree are in order as the recursion finds them
  have hcomments : (Document.ofPlaced scatteredText scatteredTree).comments =
      scatteredTree.commentNodes.filterMap (commentAt? scatteredText) :=
    (Document.comments_eq_mergeSort _ _).trans (List.mergeSort_of_pairwise (by decide +kernel))
  refine ⟨hboundaries, _, hdocument, ?_, ?_, hinitial⟩
  · rw [Document.leadingComments, Document.commentsFrom, hcomments]
    decide +kernel
  · rw [Document.trailingComments, Document.commentsFrom, hcomments]
    decide +kernel

end SourceLayers
