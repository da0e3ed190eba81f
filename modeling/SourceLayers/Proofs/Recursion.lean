/-
The walk over a stack is the recursive one:

* `Trace.after`, `Trace.andThen`: the record of a walk after one more step, and of two walks one
  after the other;
* `walk_cons`, `walkFrom_eq`, `walkEach_cons`: both walks as chains that may fault;
* `walk_append`: a stack is worked off from its top, one site after the other, so that what a step
  pushes is done before the rest of the stack;
* `Walks.visited_sublist`: the visited sites are part of the trees under the stack, in order.

Main statement: `walk_eq_walkFrom`, that the walk over a document is the recursive one and visits no
node twice.
-/
import Mathlib.Tactic
import SourceLayers.Proofs.Classification
import SourceLayers.Proofs.Subtree

namespace SourceLayers

namespace Trace

/-- The record of a walk that began with a step at a site. -/
def after (site : Site) (step : Step) (rest : Trace) : Trace :=
  { visited := site :: rest.visited
    emitted := step.emitted ++ rest.emitted
    enums := rest.enums }

/-- The record of two walks, the second of which begins with what the first one knew at its end. -/
def andThen (first second : Trace) : Trace :=
  { visited := first.visited ++ second.visited
    emitted := first.emitted ++ second.emitted
    enums := second.enums }

lemma after_andThen (site : Site) (step : Step) (a b c : Trace) :
    ((after site step a).andThen b).andThen c = after site step (a.andThen (b.andThen c)) := by
  simp [after, andThen]

lemma andThen_nil (a : Trace) : a.andThen { enums := a.enums } = a := by
  simp [andThen]

end Trace

namespace Reading

variable {reading : Reading} {enums : NameSet} {stack : List Site} {trace : Trace}

/-! ### Both walks as chains -/

lemma walk_nil (reading : Reading) (enums : NameSet) :
    reading.walk enums [] = .ok { enums } := by
  rw [walk, walkBy]

lemma walk_cons (reading : Reading) (enums : NameSet) (site : Site) (stack : List Site) :
    reading.walk enums (site :: stack) =
      (reading.visit enums site).bind fun step =>
        (reading.walk (enums.insertAll step.declared) (site.descend step.fates ++ stack)).map
          (Trace.after site step) := by
  rw [walk, walkBy]
  cases reading.visit enums site with
  | error fault => rfl
  | ok step =>
      simp only [Except.bind, walk]
      cases walkBy reading.visit (enums.insertAll step.declared)
        (site.descend step.fates ++ stack) with
      | error fault => rfl
      | ok trace => rfl

lemma walkFrom_eq (reading : Reading) (enums : NameSet) (site : Site) :
    reading.walkFrom enums site =
      (reading.visit enums site).bind fun step =>
        (reading.walkEach (enums.insertAll step.declared) (site.descend step.fates)).map
          (Trace.after site step) := by
  rw [walkFrom]
  cases reading.visit enums site with
  | error fault => rfl
  | ok step =>
      simp only [Except.bind]
      cases reading.walkEach (enums.insertAll step.declared) (site.descend step.fates) with
      | error fault => rfl
      | ok trace => rfl

lemma walkEach_nil (reading : Reading) (enums : NameSet) :
    reading.walkEach enums [] = .ok { enums } := by
  rw [walkEach]

lemma walkEach_cons (reading : Reading) (enums : NameSet) (site : Site) (rest : List Site) :
    reading.walkEach enums (site :: rest) =
      (reading.walkFrom enums site).bind fun first =>
        (reading.walkEach first.enums rest).map first.andThen := by
  rw [walkEach]
  cases reading.walkFrom enums site with
  | error fault => rfl
  | ok first =>
      simp only [Except.bind]
      cases reading.walkEach first.enums rest with
      | error fault => rfl
      | ok second => rfl

/-! ### The stack -/

/-- The simulation: working off a stack is to walk from each of its upper sites by recursion, and
then to work off the rest with what is known by then. -/
lemma walk_append (reading : Reading) (enums : NameSet) (upper lower : List Site) :
    reading.walk enums (upper ++ lower) =
      (reading.walkEach enums upper).bind fun first =>
        (reading.walk first.enums lower).map first.andThen := by
  -- by the number of nodes under the upper part, of which a step takes one away
  induction hsize : Site.sizeSites upper using Nat.strong_induction_on
    generalizing enums upper lower with
  | _ size ih =>
      cases upper with
      | nil =>
          rw [walkEach_nil, List.nil_append, Except.bind]
          cases reading.walk enums lower with
          | error fault => rfl
          | ok trace => rfl
      | cons site rest =>
          have hsplit : size = site.node.size + Site.sizeSites rest := hsize.symm
          have hbelow : ∀ fates, Site.sizeSites (site.descend fates) < size := by
            intro fates
            have hlt := site.sizeSites_descend_lt fates
            omega
          have hrest : Site.sizeSites rest < size := by
            have hpos := Node.size_eq site.node
            omega
          rw [List.cons_append, walk_cons, walkEach_cons, walkFrom_eq]
          cases hvisit : reading.visit enums site with
          | error fault => rfl
          | ok step =>
              simp only [Except.bind]
              rw [ih _ (hbelow step.fates) _ _ _ rfl]
              cases reading.walkEach (enums.insertAll step.declared)
                  (site.descend step.fates) with
              | error fault => rfl
              | ok first =>
                  simp only [Except.bind, Except.map, Trace.after]
                  rw [ih _ hrest _ _ _ rfl]
                  cases reading.walkEach first.enums rest with
                  | error fault => rfl
                  | ok second =>
                      simp only [Except.bind, Except.map, Trace.andThen]
                      cases reading.walk second.enums lower with
                      | error fault => rfl
                      | ok third => exact congrArg Except.ok (Trace.after_andThen _ _ _ _ _).symm

/-- A stack of one site is worked off as the recursion walks from it. -/
lemma walk_singleton (reading : Reading) (enums : NameSet) (site : Site) :
    reading.walk enums [site] = reading.walkFrom enums site := by
  have happend := walk_append reading enums [site] []
  rw [List.append_nil, walkEach_cons] at happend
  rw [happend]
  cases reading.walkFrom enums site with
  | error fault => rfl
  | ok first =>
      simp only [Except.bind, walkEach_nil, Except.map, walk_nil, Trace.andThen_nil]

/-- The visited sites are part of the trees under the stack, in order and each at most once. -/
lemma Walks.visited_sublist (h : reading.Walks enums stack trace) :
    trace.visited.Sublist (stack.flatMap Site.subtree) := by
  induction h with
  | done => exact List.nil_sublist _
  | @step enums site stack step rest hvisit hwalk ih =>
      rw [List.flatMap_append] at ih
      rw [List.flatMap_cons, Site.subtree_eq, List.cons_append]
      have hbelow := Site.flatMap_subtree_descend_sublist site step.fates
      exact (ih.trans (hbelow.append_right _)).cons_cons site

end Reading

/-- **The walk over a stack is the recursive one**: for a tree on the boundaries of its text there
are a document and a walk, whatever names are known at the start. For whatever document there is,
the walk over a stack and the recursive one are the same, with their candidates in order and their
names. A walk visits sites of the tree in pre-order and none twice, and each step on the way goes on
to separate places below the site. -/
theorem walk_eq_walkFrom (vocabulary : Vocabulary) (enums : NameSet) (text : List Char)
    (tree : Node) :
    (OnBoundaries text tree →
      ∃ document trace, Document.ofTree (SourceText.ofText text) tree = .ok document ∧
        document.walk vocabulary enums = .ok trace) ∧
    ∀ document, Document.ofTree (SourceText.ofText text) tree = .ok document →
      document.walk vocabulary enums =
          Reading.walkFrom ⟨text, vocabulary⟩ enums (Site.root document.root) ∧
        ∀ trace, document.walk vocabulary enums = .ok trace →
          trace.visited.Sublist (Site.preorder document.root) ∧
            (trace.visited.map Site.trail).Nodup ∧
            ∀ site ∈ trace.visited, ∀ known step,
              Reading.visit ⟨text, vocabulary⟩ known site = .ok step →
                (∀ next ∈ site.descend step.fates, next ∈ site.below) ∧
                  (site.descend step.fates).Pairwise Site.Separate := by
  refine ⟨fun hboundaries => ?_, fun document hdocument => ?_⟩
  · obtain ⟨document, hdocument, htext, hwithin⟩ := Document.exists_document hboundaries
    rw [← htext] at hwithin
    obtain ⟨trace, hwalk⟩ := Document.exists_walk_root vocabulary enums hwithin
    exact ⟨document, trace, hdocument, hwalk⟩
  · obtain ⟨root, -, rfl⟩ := Document.ofTree_eq_ok_iff.mp hdocument
    refine ⟨Reading.walk_singleton _ enums _, fun trace hwalk => ?_⟩
    have hsublist := (Reading.walk_eq_ok_iff.mp hwalk).visited_sublist
    rw [List.flatMap_singleton, ← Site.preorder_eq_subtree] at hsublist
    refine ⟨hsublist, ?_, fun site _ known step _ => Site.pairwise_separate_descend site step.fates⟩
    exact (Site.nodup_trails (Site.root root)).sublist (hsublist.map Site.trail)

/-- A class with a generic base, which holds a member of an enumeration declared before it. -/
def heritageText : List Char :=
  "enum E \x7b\x7d class é extends B<T> \x7b x = E.a \x7d".toList

/-- The tree of the class. Its base is a generic type, which the clause around it unwraps. -/
def heritageTree : Node :=
  .construct "program" 0 43
    [.construct "enum_declaration" 0 9
        [.token "enum" 0 4, { Node.construct "identifier" 5 6 [] with field := some "name" },
          .construct "enum_body" 7 9 [.token "\x7b" 7 8, .token "\x7d" 8 9]],
      .construct "class_declaration" 10 43
        [.token "class" 10 15,
          { Node.construct "type_identifier" 16 18 [] with field := some "name" },
          .construct "extends_clause" 19 31
            [.token "extends" 19 26,
              .construct "generic_type" 27 31
                [{ Node.construct "type_identifier" 27 28 [] with field := some "name" },
                  { Node.construct "type_arguments" 28 31
                      [.token "<" 28 29, .construct "type_identifier" 29 30 [],
                        .token ">" 30 31] with
                    field := some "type_arguments" }]],
          .construct "class_body" 32 43
            [.token "\x7b" 32 33,
              .construct "public_field_definition" 34 41
                [.construct "property_identifier" 34 35 [], .token "=" 36 37,
                  .construct "member_expression" 38 41
                    [{ Node.construct "identifier" 38 39 [] with field := some "object" },
                      .token "." 39 40, .construct "property_identifier" 40 41 []]],
              .token "\x7d" 42 43]]]

/-- The recursion from the root of the class takes the walk over it, past the clause that unwraps
its base, and visits the sites in pre-order. -/
theorem walk_heritage :
    OnBoundaries heritageText heritageTree ∧
      ∃ document trace,
        Document.ofTree (SourceText.ofText heritageText) heritageTree = .ok document ∧
          Reading.walkFrom ⟨heritageText, .default⟩ NameSet.empty (Site.root document.root) =
            .ok trace ∧
          trace.visited.Sublist (Site.preorder document.root) := by
  have hboundaries : OnBoundaries heritageText heritageTree := by decide +kernel
  obtain ⟨hexists, hsame⟩ :=
    walk_eq_walkFrom .default NameSet.empty heritageText heritageTree
  obtain ⟨document, trace, hdocument, hwalk⟩ := hexists hboundaries
  obtain ⟨hrecursive, hvisited⟩ := hsame document hdocument
  exact ⟨hboundaries, document, trace, hdocument, hrecursive ▸ hwalk, (hvisited trace hwalk).1⟩

end SourceLayers
