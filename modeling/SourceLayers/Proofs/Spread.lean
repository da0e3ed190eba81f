/-
Spreads in markup:

* `OpensSpread`: an expression in markup begins with its brace and has a spread with its three
  points;
* `FollowsBlanks`: nothing but blanks comes before the spread;
* `le_skipBlanksUpTo_iff`: passing over blanks from an offset reaches the offsets with only blanks
  before them;
* `covers_points_iff`: so the points are marked exactly if only blanks come before them.

The points are looked for from the brace on, and a comment before them is not passed over. Main
statement: `spread_points_held`, that the brace and, after blanks alone, the points are markup or a
layer above it.
-/
import Mathlib.Tactic
import SourceLayers.Proofs.Coverage
import SourceLayers.Proofs.Superposition

namespace SourceLayers

/-! ### Expressions with a spread -/

/-- An expression in markup begins with a brace, and a spread after the brace with three points. -/
def OpensSpread (text : List Char) (node spread : Node) : Prop :=
  (cut text node.start node.stop).head? = some '\x7b' ∧ node.start < spread.start ∧
    spread.kind = "spread_element" ∧ ['.', '.', '.'] <+: cut text spread.start spread.stop

instance (text : List Char) (node spread : Node) : Decidable (OpensSpread text node spread) :=
  inferInstanceAs (Decidable (_ ∧ _))

/-- An offset is that of one of the points of a spread. -/
def Node.IsPoint (spread : Node) (p : Nat) : Prop :=
  spread.start ≤ p ∧ p < spread.start + 3

/-- Only blanks stand between the brace and the spread, and the expression does not end among
them. -/
def FollowsBlanks (text : List Char) (node spread : Node) : Prop :=
  isBlankText (cut text (node.start + 1) spread.start) = true ∧
    (spread.start ≤ node.stop ∨ spread.start = node.start + 1)

variable {text : List Char} {node spread : Node}

/-- Points stand at the points of a spread. -/
lemma OpensSpread.getElem?_eq_point (h : OpensSpread text node spread) {p : Nat}
    (hp : spread.IsPoint p) : text[p]? = some '.' := by
  obtain ⟨-, -, -, hpoints⟩ := h
  obtain ⟨i, hi, rfl⟩ : ∃ i < 3, p = spread.start + i := by
    obtain ⟨hfirst, hlast⟩ := hp
    exact ⟨p - spread.start, by omega, by omega⟩
  obtain ⟨tail, htail⟩ : ['.', '.', '.'] <+: text.drop spread.start :=
    hpoints.trans (List.take_prefix _ _)
  rw [← List.getElem?_drop, ← htail]
  interval_cases i <;> rfl

/-- The points of a spread lie in the text. -/
lemma OpensSpread.start_lt_length (h : OpensSpread text node spread) :
    spread.start + 2 < text.length :=
  (List.getElem?_eq_some_iff.mp (h.getElem?_eq_point ⟨by omega, by omega⟩)).1

/-- A text with a brace is not blank. -/
lemma OpensSpread.isBlankText_eq_false (h : OpensSpread text node spread) :
    isBlankText text = false := by
  rw [isBlankText, List.all_eq_false]
  exact ⟨'\x7b', List.mem_of_getElem? (head?_cut_eq_some h.1).2, by decide⟩

/-! ### Passing over blanks -/

/-- The blanks at the start of a text reach to the offsets with only blanks before them. -/
lemma le_length_takeWhile_iff {text : List Char} {n : Nat} :
    n ≤ (text.takeWhile isBlank).length ↔
      n ≤ text.length ∧ isBlankText (text.take n) = true := by
  induction text generalizing n with
  | nil => simp [isBlankText]
  | cons c rest ih =>
      cases n with
      | zero => simp [isBlankText]
      | succ n =>
          by_cases hc : isBlank c = true
          · rw [List.takeWhile_cons_of_pos hc, List.length_cons, List.length_cons,
              Nat.add_le_add_iff_right, Nat.add_le_add_iff_right, ih]
            simp [isBlankText, hc]
          · rw [List.takeWhile_cons_of_neg hc]
            simp [isBlankText, hc]

/-- The blanks from an offset on reach to the offsets with only blanks in between. -/
lemma le_add_length_takeWhile_iff {first p : Nat} (hfirst : first ≤ p) (hp : p ≤ text.length) :
    p ≤ first + ((text.drop first).takeWhile isBlank).length ↔
      isBlankText (cut text first p) = true := by
  have hlength : p - first ≤ (text.drop first).length := by
    rw [List.length_drop]
    omega
  calc p ≤ first + ((text.drop first).takeWhile isBlank).length
      ↔ p - first ≤ ((text.drop first).takeWhile isBlank).length := by omega
    _ ↔ isBlankText (cut text first p) = true := by
      rw [le_length_takeWhile_iff, cut]
      exact and_iff_right hlength

/-- Passing over blanks from an offset up to another one reaches, besides the first, the offsets up
to that one with only blanks before them. -/
lemma le_skipBlanksUpTo_iff {first stop next p : Nat}
    (h : skipBlanksUpTo text first stop = .ok next) (hfirst : first ≤ p) (hp : p ≤ text.length) :
    p ≤ next ↔ isBlankText (cut text first p) = true ∧ (p ≤ stop ∨ p = first) := by
  rw [← le_add_length_takeWhile_iff hfirst hp]
  rw [skipBlanksUpTo] at h
  -- the search stops at once, at the other offset, or where the blanks end
  split_ifs at h with hstop hend hread <;> cases h <;> omega

/-! ### What is marked -/

variable {reading : Reading} {enums : NameSet} {site : Site} {step : Step}

lemma getElem?_of_charBefore {offset : Nat} {c : Char} (h : charBefore text offset = .ok c) :
    text[offset - 1]? = some c := by
  rw [charBefore] at h
  split at h
  · cases h
    assumption
  · cases h

/-- A closing brace is claimed only where there is one. -/
lemma getElem?_of_mem_closingBrace {start stop p : Nat} {brace : List Candidate} {c : Candidate}
    (h : closingBrace text start stop = .ok brace) (hc : c ∈ brace) (hcovers : c.Covers p) :
    text[p]? = some '\x7d' := by
  rw [closingBrace] at h
  split at h
  · obtain ⟨last, hlast, hbrace⟩ := except_bind_eq_ok.mp h
    cases hbrace
    split_ifs at hc with hclosing
    · obtain ⟨hstart, hstop, -⟩ := mem_claim.mp hc
      obtain ⟨hfirst, hend⟩ := hcovers
      have hp : p = stop - 1 := by omega
      rw [hp, ← hclosing]
      exact getElem?_of_charBefore hlast
    · cases hc
  · cases h
    cases hc

/-- The step at an expression in markup is that of its rule. -/
lemma embedded_of_visit (hkind : site.node.kind = "jsx_expression")
    (h : reading.visit enums site = .ok step) : reading.embedded site.node = .ok step := by
  have hrule : Rule.ofKind? "jsx_expression" = some .embedded := by decide +kernel
  rw [Reading.visit, hkind, hrule] at h
  obtain ⟨answer, hanswer, rfl⟩ := except_map_eq_ok.mp h
  obtain ⟨given, hgiven, rfl⟩ := except_map_eq_ok.mp hanswer
  exact hgiven

/-- The step at an expression with a spread claims all from its start up to three characters beyond
the blanks after its brace. Any other candidate is on a closing brace. -/
lemma embedded_spread (hcontent : spread ∈ node.content.head?)
    (hopens : OpensSpread reading.text node spread) (h : reading.embedded node = .ok step) :
    ∃ next, skipBlanksUpTo reading.text (node.start + 1) node.stop = .ok next ∧
      (∀ c ∈ claim node.start (next + 3) .jsx, c ∈ step.emitted) ∧
      ∀ c ∈ step.emitted, c ∈ claim node.start (next + 3) .jsx ∨
        ∀ p, c.Covers p → reading.text[p]? = some '\x7d' := by
  have hspread : (node.content.head?.any fun first => first.kind == "spread_element") = true := by
    rw [Option.mem_def.mp hcontent, Option.any_some, hopens.2.2.1]
    rfl
  rw [Reading.embedded, hspread] at h
  obtain ⟨next, hnext, h⟩ := except_bind_eq_ok.mp h
  obtain ⟨brace, hbrace, h⟩ := except_bind_eq_ok.mp h
  cases h
  refine ⟨next, hnext, fun c hc => List.mem_append_left _ hc, fun c hc => ?_⟩
  exact (List.mem_append.mp hc).imp_right fun hmem p => getElem?_of_mem_closingBrace hbrace hmem

/-- **The points after blanks**: the points of a spread are marked exactly if only blanks come
before them, and the brace always is. -/
lemma covers_points_iff (hcontent : spread ∈ node.content.head?)
    (hopens : OpensSpread reading.text node spread) (h : reading.embedded node = .ok step) :
    (∃ c ∈ step.emitted, c.Covers node.start ∧ c.layer = .jsx) ∧
    ((∀ p, spread.IsPoint p → ∃ c ∈ step.emitted, c.Covers p) ↔
      FollowsBlanks reading.text node spread) ∧
    (FollowsBlanks reading.text node spread →
      ∀ p, spread.IsPoint p → ∃ c ∈ step.emitted, c.Covers p ∧ c.layer = .jsx) := by
  obtain ⟨next, hnext, hmem, honly⟩ := embedded_spread hcontent hopens h
  have hafter := hopens.2.1
  have hlength := hopens.start_lt_length
  have hfirst : node.start + 1 ≤ next :=
    (le_skipBlanksUpTo_iff hnext le_rfl (by omega)).mpr ⟨by simp [cut, isBlankText], by simp⟩
  have hreach : spread.start ≤ next ↔ FollowsBlanks reading.text node spread :=
    le_skipBlanksUpTo_iff hnext hafter (by omega)
  let c : Candidate := ⟨⟨node.start, next + 3, by omega⟩, .jsx, Layer.jsx.priority⟩
  have hc : c ∈ step.emitted := hmem c (mem_claim.mpr ⟨rfl, rfl, rfl, rfl⟩)
  have hcovers : FollowsBlanks reading.text node spread →
      ∀ p, spread.IsPoint p → ∃ c ∈ step.emitted, c.Covers p ∧ c.layer = .jsx := by
    rintro hblanks p ⟨hpoint, hlast⟩
    have hle := hreach.mpr hblanks
    exact ⟨c, hc, ⟨by show node.start ≤ p; omega, by show p < next + 3; omega⟩, rfl⟩
  refine ⟨⟨c, hc, ⟨le_rfl, by show node.start < next + 3; omega⟩, rfl⟩, ⟨fun hcovered => ?_, ?_⟩,
    hcovers⟩
  · -- what covers the last point is the claim, as no brace stands there
    have hlast : spread.IsPoint (spread.start + 2) := ⟨by omega, by omega⟩
    obtain ⟨d, hd, hcover⟩ := hcovered _ hlast
    rw [← hreach]
    rcases honly d hd with hclaim | hbrace
    · obtain ⟨-, hstop, -⟩ := mem_claim.mp hclaim
      have hbefore := hcover.2
      omega
    · have hpoint := hbrace _ hcover
      rw [hopens.getElem?_eq_point hlast] at hpoint
      exact absurd hpoint (by decide)
  · intro hblanks p hp
    obtain ⟨d, hd, hcover, -⟩ := hcovers hblanks p hp
    exact ⟨d, hd, hcover⟩

/-- **Spreads in markup**: for a tree on the boundaries of its text there are a document and a walk.
For whatever document and walk there are, the brace of each visited expression with a spread is
markup or a layer above it, and so are the three points after nothing but blanks. The step at the
expression marks the points then, and then only. -/
theorem spread_points_held (vocabulary : Vocabulary) (parse : List Char → Node)
    (text : List Char) :
    (OnBoundaries text (parse text) →
      ∃ document trace, Document.ofTree (SourceText.ofText text) (parse text) = .ok document ∧
        document.walk vocabulary NameSet.empty = .ok trace) ∧
    ∀ document trace, Document.ofTree (SourceText.ofText text) (parse text) = .ok document →
      document.walk vocabulary NameSet.empty = .ok trace →
      ∃ result, classify vocabulary parse text = .ok result ∧
        ∀ site ∈ trace.visited, site.node.kind = "jsx_expression" →
          ∀ spread ∈ site.node.content.head?, OpensSpread text site.node spread →
          HeldAt result.regions site.node.start [.typescript, .jsx, .react] ∧
          (FollowsBlanks text site.node spread → ∀ p, spread.IsPoint p →
            HeldAt result.regions p [.typescript, .jsx, .react]) ∧
          ∃ step, Reading.embedded ⟨text, vocabulary⟩ site.node = .ok step ∧
            (∀ c ∈ step.emitted, c ∈ trace.emitted) ∧
            ((∀ p, spread.IsPoint p → ∃ c ∈ step.emitted, c.Covers p) ↔
              FollowsBlanks text site.node spread) := by
  refine ⟨exists_walk_of_onBoundaries vocabulary parse, ?_⟩
  intro document trace hdocument hwalk
  obtain ⟨result, hresult, hregions⟩ := exists_classify_of_walk hdocument hwalk
  obtain ⟨root, -, rfl⟩ := Document.ofTree_eq_ok_iff.mp hdocument
  refine ⟨result, hresult, fun site hsite hkind spread hcontent hopens => ?_⟩
  rw [hregions hopens.isBlankText_eq_false]
  obtain ⟨known, step, hvisit, hemitted, -⟩ :=
    (Reading.walk_eq_ok_iff.mp hwalk).step_of_visited hsite
  have hembedded : Reading.embedded ⟨text, vocabulary⟩ site.node = .ok step :=
    embedded_of_visit hkind hvisit
  obtain ⟨hbrace, hiff, hpoints⟩ := covers_points_iff hcontent hopens hembedded
  -- where a candidate of markup lies, markup and the layers above it hold the text
  have hheld : ∀ p < text.length, (∃ c ∈ step.emitted, c.Covers p ∧ c.layer = .jsx) →
      HeldAt (resolve (trace.emitted ++ (Document.ofPlaced text root).commentCandidates)
        text.length) p [.typescript, .jsx, .react] := by
    rintro p hp ⟨c, hc, hcovers, hlayer⟩
    have hupward := heldAt_of_emitted hwalk (hemitted c hc) hcovers hp
    rwa [hlayer] at hupward
  have hlength := hopens.start_lt_length
  refine ⟨hheld _ (by have := hopens.2.1; omega) hbrace, fun hblanks p hp => ?_, step, hembedded,
    hemitted, hiff⟩
  exact hheld p (by have := hp.2; omega) (hpoints hblanks p hp)

/-- A spread after a blank, of a name of two octets. -/
def spacedText : List Char :=
  "\x7b ...é\x7d".toList

/-- The spread, whose end is `stop`. -/
def spacedSpread (stop : Nat) : Node :=
  .construct "spread_element" 2 stop [.token "..." 2 5, .construct "identifier" 5 stop []]

/-- The expression around it. -/
def spacedExpression (stop : Nat) : Node :=
  .construct "jsx_expression" 0 (stop + 1)
    [.token "\x7b" 0 1, spacedSpread stop, .token "\x7d" stop (stop + 1)]

/-- The tree of the text. -/
def spacedTree (stop : Nat) : Node :=
  .construct "program" 0 (stop + 1) [spacedExpression stop]

/-- The brace and the points of the spread are held. -/
theorem spread_points_held_spaced :
    OnBoundaries spacedText (spacedTree 7) ∧
      OpensSpread spacedText (spacedExpression 6) (spacedSpread 6) ∧
      FollowsBlanks spacedText (spacedExpression 6) (spacedSpread 6) ∧
      ∃ result, classify .default (fun _ => spacedTree 7) spacedText = .ok result ∧
        HeldAt result.regions 0 [.typescript, .jsx, .react] ∧
        ∀ p, 2 ≤ p → p < 5 → HeldAt result.regions p [.typescript, .jsx, .react] := by
  have hboundaries : OnBoundaries spacedText (spacedTree 7) := by decide +kernel
  have hopens : OpensSpread spacedText (spacedExpression 6) (spacedSpread 6) := by decide +kernel
  have hblanks : FollowsBlanks spacedText (spacedExpression 6) (spacedSpread 6) :=
    ⟨by decide +kernel, by decide⟩
  obtain ⟨hexists, hheld⟩ := spread_points_held .default (fun _ => spacedTree 7) spacedText
  obtain ⟨document, trace, hdocument, hwalk⟩ := hexists hboundaries
  have hplace : Document.ofTree (SourceText.ofText spacedText) (spacedTree 7) =
      .ok (Document.ofPlaced spacedText (spacedTree 6)) := by rfl
  obtain rfl : Document.ofPlaced spacedText (spacedTree 6) = document :=
    Except.ok.inj (hplace.symm.trans hdocument)
  obtain ⟨result, hresult, hvisited⟩ := hheld _ trace hdocument hwalk
  obtain ⟨site, hsite, hnode⟩ : ∃ site ∈ trace.visited, site.node = spacedExpression 6 :=
    mem_visited_of_content hwalk (by decide +kernel) List.mem_cons_self
  have hsites := hvisited site hsite
  rw [hnode] at hsites
  obtain ⟨hbrace, hpoints, -⟩ := hsites rfl (spacedSpread 6) rfl hopens
  exact ⟨hboundaries, hopens, hblanks, result, hresult, hbrace,
    fun p hfirst hlast => hpoints hblanks p ⟨hfirst, hlast⟩⟩

/-- A tag with a comment before its spread. -/
def commentedText : List Char :=
  "<a \x7b/*b*/ ...c\x7d />".toList

/-- The tree of that tag. -/
def commentedTree : Node :=
  .construct "program" 0 18
    [.construct "expression_statement" 0 18
      [.construct "jsx_self_closing_element" 0 18
        [.token "<" 0 1, { Node.construct "identifier" 1 2 [] with field := some "name" },
          { Node.construct "jsx_expression" 3 15
              [.token "\x7b" 3 4, .construct "comment" 4 9 [],
                .construct "spread_element" 10 14
                  [.token "..." 10 13, .construct "identifier" 13 14 []],
                .token "\x7d" 14 15]
            with field := some "attribute" },
          .token "/>" 16 18]]]

/-- The comment is taken for the points, and so these are lost to the base language. -/
theorem spread_points_lost_after_comment :
    OnBoundaries commentedText commentedTree ∧
      ∃ document trace result,
        Document.ofTree (SourceText.ofText commentedText) commentedTree = .ok document ∧
        document.walk .default NameSet.empty = .ok trace ∧
        classify .default (fun _ => commentedTree) commentedText = .ok result ∧
        (∀ p, 10 ≤ p → p < 13 → HasLayer result.regions p .javascript) ∧
        ∃ site ∈ trace.visited, site.node.kind = "jsx_expression" ∧
          ∃ spread ∈ site.node.content.head?, OpensSpread commentedText site.node spread ∧
            spread.start = 10 ∧
            ∃ comment ∈ site.node.children, comment.isComment = true ∧
              comment.start = site.node.start + 1 ∧
              isBlankText (cut commentedText comment.stop spread.start) = true := by
  have hboundaries : OnBoundaries commentedText commentedTree := by decide +kernel
  have hblank : isBlankText commentedText = false := by decide +kernel
  have hdocument : Document.ofTree (SourceText.ofText commentedText) commentedTree =
      .ok (Document.ofPlaced commentedText commentedTree) := by rfl
  have hwithin : ∃ trace ∈ Reading.walkWithin ⟨commentedText, .default⟩ 7 NameSet.empty
      [Site.root commentedTree],
      (∀ p ∈ List.range' 10 3, layerAtLinear (resolve trace.emitted commentedText.length)
        (p : Nat) = some .javascript) ∧
        ∃ site ∈ trace.visited, site.node.kind = "jsx_expression" ∧
          ∃ spread ∈ site.node.content.head?, OpensSpread commentedText site.node spread ∧
            spread.start = 10 ∧
            ∃ comment ∈ site.node.children, comment.isComment = true ∧
              comment.start = site.node.start + 1 ∧
              isBlankText (cut commentedText comment.stop spread.start) = true := by
    decide +kernel
  obtain ⟨trace, hwalk, hlayers, hfound⟩ := Reading.exists_walk_of_walkWithin hwithin
  obtain ⟨result, hresult, hshown⟩ :=
    exists_classify_showing (fun _ => commentedTree) hblank hdocument hwalk
  refine ⟨hboundaries, _, trace, result, hdocument, hwalk, hresult, fun p hfirst hlast => ?_,
    hfound⟩
  exact hshown p _ (hlayers p (List.mem_range'_1.mpr ⟨hfirst, hlast⟩))

end SourceLayers
