/-
Enumerations and their members:

* `Reading.Declares`: a node declares the name of an enumeration, as the enumeration itself or as a
  block that holds it;
* `mem_declared_iff`: whatever the rule, a step declares the names that its node does and no others;
* `Reading.Takes`: the steps at some sites one after the other, each with the names that the ones
  before it declared. A walk takes such steps (`Walks.exists_takes`), and what is known at a site is
  what was declared before it (`Takes.known`);
* `Walks.visited_below`: below a site a walk visits only what the step there goes on to;
* `visit_member`: a member of a name is typed language as a whole if the name is known, and base
  language otherwise.

Main statement: `members_by_declaration`, that enumerations are known from their declarations on, in
the order of the walk, and that nothing else is.
-/
import Mathlib.Tactic
import SourceLayers.Proofs.Coverage
import SourceLayers.Proofs.Recursion

namespace SourceLayers

/-! ### Declarations -/

/-- The kinds of blocks whose enumerations are declared with them. -/
def blockKinds : List String :=
  ["ambient_declaration", "module", "internal_module"]

/-- A node declares the name of an enumeration: it is the enumeration, or a block with the
enumeration directly in it. -/
def Reading.Declares (reading : Reading) (node : Node) (name : String) : Prop :=
  ∃ enumeration nameNode : Node, enumeration.kind = "enum_declaration" ∧
    (enumeration = node ∨ node.kind ∈ blockKinds ∧ enumeration ∈ node.content) ∧
    enumeration.field? "name" = some nameNode ∧ reading.nameOf nameNode = name

variable {reading : Reading} {enums : NameSet} {site : Site} {step : Step} {name : String}

lemma mem_enumName {node : Node} :
    name ∈ reading.enumName node ↔
      ∃ nameNode, node.field? "name" = some nameNode ∧ reading.nameOf nameNode = name := by
  simp [Reading.enumName]

lemma declares_of_enumeration {node : Node} (hkind : node.kind = "enum_declaration") :
    reading.Declares node name ↔ name ∈ reading.enumName node := by
  have hblock : node.kind ∉ blockKinds := by rw [hkind]; decide
  rw [mem_enumName]
  constructor
  · rintro ⟨enumeration, nameNode, -, rfl | ⟨hmem, -⟩, hname⟩
    · exact ⟨nameNode, hname⟩
    · exact absurd hmem hblock
  · rintro ⟨nameNode, hname⟩
    exact ⟨node, nameNode, hkind, Or.inl rfl, hname⟩

lemma declares_of_block {node : Node} (hkind : node.kind ∈ blockKinds) :
    reading.Declares node name ↔
      name ∈ (node.content.filter fun child => child.kind == "enum_declaration").flatMap
        reading.enumName := by
  have hother : node.kind ≠ "enum_declaration" := by
    intro heq
    rw [heq] at hkind
    exact absurd hkind (by decide)
  simp only [List.mem_flatMap, List.mem_filter, beq_iff_eq, mem_enumName]
  constructor
  · rintro ⟨enumeration, nameNode, henum, rfl | ⟨-, hmem⟩, hname⟩
    · exact absurd henum hother
    · exact ⟨enumeration, ⟨hmem, henum⟩, nameNode, hname⟩
  · rintro ⟨enumeration, ⟨hmem, henum⟩, nameNode, hname⟩
    exact ⟨enumeration, nameNode, henum, Or.inr ⟨hkind, hmem⟩, hname⟩

/-- Rules other than those of enumerations and of blocks declare nothing. -/
lemma Rule.declared_apply {rule : Rule} (h : rule.apply reading enums site = .ok (some step))
    (henumeration : rule ≠ .enumDeclaration) (hblock : rule ≠ .ambient) : step.declared = [] := by
  cases rule with
  | enumDeclaration => exact absurd rfl henumeration
  | ambient => exact absurd rfl hblock
  | element =>
      obtain ⟨tag, rfl⟩ := genericArrow?_eq_some (Except.ok.inj h)
      rfl
  | openingTag =>
      cases h
      rw [Reading.openingTag]
      split <;> rfl
  | closingTag =>
      cases h
      rw [Reading.closingTag]
      split <;> rfl
  | embedded =>
      obtain ⟨answer, hanswer, heq⟩ := except_map_eq_ok.mp h
      cases heq
      obtain ⟨stop, start, brace, -, rfl⟩ := embedded_eq_ok hanswer
      rfl
  | markupAttribute =>
      cases h
      rcases hcontent : site.node.content with _ | ⟨first, _ | ⟨value, rest⟩⟩
      · simp [Reading.markupAttribute, hcontent, Step.stop]
      · simp [Reading.markupAttribute, hcontent, Step.stop]
      · simp only [Reading.markupAttribute, hcontent]
        split <;> rfl
  | expressionStatement =>
      rcases expressionStatement?_eq_some (Except.ok.inj h) with ⟨layer, rfl⟩ | hrecovered
      · rfl
      · obtain ⟨stop, rfl⟩ := recoveredUsing?_eq_some hrecovered
        rfl
  | awaitExpression =>
      obtain ⟨stop, rfl⟩ := recoveredUsing?_eq_some (Except.ok.inj h)
      rfl
  | variableDeclaration =>
      obtain ⟨stop, rfl⟩ := usingDeclaration?_eq_some (Except.ok.inj h)
      rfl
  | instantiation =>
      obtain ⟨first, rfl⟩ := instantiation?_eq_some (Except.ok.inj h)
      rfl
  | typeOperator =>
      obtain ⟨operand, rfl⟩ := typeOperator?_eq_some (Except.ok.inj h)
      rfl
  | typeAssertion =>
      obtain ⟨i, operand, rfl⟩ := typeAssertion?_eq_some (Except.ok.inj h)
      rfl
  | nonNull =>
      obtain ⟨operand, rfl⟩ := nonNull?_eq_some (Except.ok.inj h)
      rfl
  | declarator =>
      obtain ⟨typeNode, rfl⟩ := typedDeclarator?_eq_some (Except.ok.inj h)
      rfl
  | importStatement =>
      cases h
      rw [Reading.moduleStatement]
      split <;> rfl
  | exportStatement =>
      cases h
      rw [Reading.moduleStatement]
      split <;> rfl
  | memberAccess =>
      obtain rfl := enumAccess?_eq_some (Except.ok.inj h)
      rfl
  | _ =>
      cases h
      rfl

/-- Enumerations and blocks each have a rule of their own. -/
lemma Rule.ofKind?_declaring :
    Rule.ofKind? "enum_declaration" = some .enumDeclaration ∧
      ∀ kind ∈ blockKinds, Rule.ofKind? kind = some .ambient := by
  decide +kernel

/-- **A step declares what its node does**: the names of the enumerations that are declared here,
and no others. -/
lemma mem_declared_iff (h : reading.visit enums site = .ok step) :
    name ∈ step.declared ↔ reading.Declares site.node name := by
  obtain ⟨henumeration, hblock⟩ := Rule.ofKind?_declaring
  by_cases hkind : site.node.kind = "enum_declaration"
  · rw [declares_of_enumeration hkind]
    rw [Reading.visit, hkind, henumeration] at h
    cases h
    rfl
  by_cases hmem : site.node.kind ∈ blockKinds
  · rw [declares_of_block hmem]
    rw [Reading.visit, hblock _ hmem] at h
    cases h
    rfl
  -- any other node declares nothing, and neither does its rule
  have hnone : step.declared = [] := by
    rcases visit_cases h with ⟨rule, hrule, happly⟩ | ⟨rfl, -⟩
    · obtain ⟨-, hkinds⟩ := Rule.mem_kinds_of_ofKind? hrule
      refine Rule.declared_apply happly ?_ ?_
      · rintro rfl
        exact hkind (List.mem_singleton.mp hkinds)
      · rintro rfl
        exact hmem hkinds
    · rfl
  rw [hnone]
  refine iff_of_false List.not_mem_nil ?_
  rintro ⟨enumeration, nameNode, henum, rfl | ⟨hin, -⟩, -⟩
  · exact hkind henum
  · exact hmem hin

/-! ### Steps one after the other -/

namespace Reading

/-- The steps at some sites one after the other: each is taken with the names that were known at the
start and those that the steps before it declared. -/
inductive Takes (reading : Reading) : NameSet → List Site → List Step → Prop where
  | nil (enums : NameSet) : Takes reading enums [] []
  | cons {enums : NameSet} {site : Site} {step : Step} {sites : List Site} {steps : List Step} :
      reading.visit enums site = .ok step →
      Takes reading (enums.insertAll step.declared) sites steps →
      Takes reading enums (site :: sites) (step :: steps)

/-- A name is known before the site at a position: it was known at the start, or some site before
that position declares it. -/
def KnownBefore (reading : Reading) (enums : NameSet) (sites : List Site) (j : Nat)
    (name : String) : Prop :=
  name ∈ enums ∨ ∃ earlier ∈ sites.take j, reading.Declares earlier.node name

variable {sites stack : List Site} {steps : List Step} {trace : Trace} {j : Nat}

/-- What is known at a site is what was declared before it. -/
lemma Takes.known (h : reading.Takes enums sites steps) (hsite : sites[j]? = some site)
    (hstep : steps[j]? = some step) :
    ∃ known, reading.visit known site = .ok step ∧
      ∀ name, name ∈ known ↔ reading.KnownBefore enums sites j name := by
  induction h generalizing j with
  | nil => simp at hsite
  | @cons enums first taken sites steps hvisit _ ih =>
      cases j with
      | zero =>
          cases hsite
          cases hstep
          exact ⟨enums, hvisit, fun name => by simp [KnownBefore]⟩
      | succ j =>
          obtain ⟨known, hlater, hknown⟩ := ih hsite hstep
          refine ⟨known, hlater, fun name => ?_⟩
          rw [hknown, KnownBefore, KnownBefore, NameSet.mem_insertAll, mem_declared_iff hvisit,
            List.take_succ_cons, List.exists_mem_cons_iff, or_assoc]

/-- There is a step at every site. -/
lemma Takes.exists_step (h : reading.Takes enums sites steps) (hsite : sites[j]? = some site) :
    ∃ step, steps[j]? = some step := by
  induction h generalizing j with
  | nil => simp at hsite
  | @cons enums first taken sites steps _ _ ih =>
      cases j with
      | zero => exact ⟨taken, rfl⟩
      | succ j => exact ih hsite

/-- A walk takes its steps at the visited sites one after the other, and emits what they emit. -/
lemma Walks.exists_takes (h : reading.Walks enums stack trace) :
    ∃ steps, reading.Takes enums trace.visited steps ∧
      trace.emitted = steps.flatMap Step.emitted := by
  induction h with
  | done enums => exact ⟨[], Takes.nil enums, rfl⟩
  | @step enums site stack step rest hvisit _ ih =>
      obtain ⟨steps, htakes, hemitted⟩ := ih
      exact ⟨step :: steps, Takes.cons hvisit htakes, by rw [List.flatMap_cons, hemitted]⟩

/-- The names at the end of a walk are those at its start and what the visited sites declare. -/
lemma Walks.mem_enums_iff (h : reading.Walks enums stack trace) :
    name ∈ trace.enums ↔
      name ∈ enums ∨ ∃ site ∈ trace.visited, reading.Declares site.node name := by
  induction h with
  | done => simp
  | @step enums site stack step rest hvisit _ ih =>
      rw [ih, NameSet.mem_insertAll, mem_declared_iff hvisit, List.exists_mem_cons_iff, or_assoc]

/-- A walk visits whatever the step at a visited site goes on to. -/
lemma Walks.descend_visited (h : reading.Walks enums stack trace)
    (htakes : reading.Takes enums trace.visited steps)
    (hsite : trace.visited[j]? = some site) (hstep : steps[j]? = some step) :
    ∀ next ∈ site.descend step.fates, next ∈ trace.visited := by
  induction h generalizing steps j with
  | done => simp at hsite
  | @step enums first stack taken rest hvisit hwalk ih =>
      cases htakes with
      | @cons _ _ same _ steps hsame htakes =>
          obtain rfl : taken = same := Except.ok.inj (hvisit.symm.trans hsame)
          intro next hnext
          cases j with
          | zero =>
              cases hsite
              cases hstep
              exact List.mem_cons_of_mem _ (hwalk.mem_visited next (List.mem_append_left _ hnext))
          | succ j => exact List.mem_cons_of_mem _ (ih htakes hsite hstep next hnext)

/-- Below a site a walk visits only what lies under the sites that the step there goes on to. -/
lemma Walks.visited_below (h : reading.Walks enums stack trace)
    (htakes : reading.Takes enums trace.visited steps)
    (hnodup : ((stack.flatMap Site.subtree).map Site.trail).Nodup)
    (hsite : trace.visited[j]? = some site) (hstep : steps[j]? = some step) {d : Site}
    (hbelow : d ∈ site.below) (hvisited : d ∈ trace.visited) :
    ∃ next ∈ site.descend step.fates, d ∈ next.subtree := by
  induction h generalizing steps j with
  | done => simp at hsite
  | @step enums first stack taken rest hvisit hwalk ih =>
      cases htakes with
      | @cons _ _ same _ steps hsame htakes =>
          obtain rfl : taken = same := Except.ok.inj (hvisit.symm.trans hsame)
          obtain ⟨hrest, hfirst⟩ := Site.nodup_trails_descend hnodup taken.fates
          have hpending := hwalk.visited_sublist.subset
          cases j with
          | zero =>
              cases hsite
              cases hstep
              have hne : d ≠ site := fun heq => Site.trail_ne_of_mem_below hbelow (by rw [heq])
              have hlater := hpending ((List.mem_cons.mp hvisited).resolve_left hne)
              rw [List.flatMap_append, List.mem_append] at hlater
              exact List.mem_flatMap.mp
                (hlater.resolve_right (Site.not_mem_flatMap_of_mem_below hnodup hbelow))
          | succ j =>
              have hne : d ≠ first := by
                -- whatever is below a later site is pending, and the first site is not
                rintro rfl
                obtain ⟨next, hnext, hunder⟩ :=
                  List.mem_flatMap.mp (hpending (List.mem_of_getElem? hsite))
                have hself : d ∈ site.subtree := by
                  rw [Site.subtree_eq]
                  exact List.mem_cons_of_mem _ hbelow
                exact hfirst (List.mem_flatMap.mpr
                  ⟨next, hnext, Site.mem_subtree_trans hunder hself⟩)
              exact ih htakes hrest hsite hstep ((List.mem_cons.mp hvisited).resolve_left hne)

end Reading

/-! ### Members -/

lemma enumAccess?_eq {node target : Node} (htarget : node.field? "object" = some target)
    (hidentifier : target.kind = "identifier") :
    reading.enumAccess? enums node =
      if reading.nameOf target ∈ enums then some (Step.stop (mark node .typescript)) else none := by
  by_cases hmem : reading.nameOf target ∈ enums
  · simp [Reading.enumAccess?, htarget, hidentifier, hmem]
  · simp [Reading.enumAccess?, htarget, hidentifier, hmem]

/-- A member is taken by its rule, or else is base language by the tables. -/
lemma visit_member (hkind : site.node.kind = "member_expression") :
    reading.visit enums site =
      .ok ((reading.enumAccess? enums site.node).getD
        (Step.through site.node (mark site.node .javascript))) := by
  have hrule : Rule.ofKind? "member_expression" = some .memberAccess := by decide +kernel
  have hlayer : reading.defaultLayer? site = some .javascript := by
    have htables : "member_expression" ∉ referenceKinds ∧ "member_expression" ∉ typeKinds ∧
        "member_expression" ∉ markupKinds ∧ "member_expression" ∈ baseKinds := by decide +kernel
    simp [Reading.defaultLayer?, hkind, htables]
  rw [Reading.visit, hkind, hrule]
  simp only [Rule.apply, Reading.defaultStep, hlayer]
  rfl

/-- Among steps taken one after the other a member of a name is taken by its rule if the name was
declared before, and by the tables otherwise. -/
lemma Reading.Takes.member {sites : List Site} {steps : List Step} {j : Nat} {target : Node}
    (h : reading.Takes enums sites steps) (hsite : sites[j]? = some site)
    (hstep : steps[j]? = some step) (hkind : site.node.kind = "member_expression")
    (htarget : site.node.field? "object" = some target)
    (hidentifier : target.kind = "identifier") :
    ∃ names, reading.visit names site = .ok step ∧
      (∀ name, name ∈ names ↔ reading.KnownBefore enums sites j name) ∧
      (reading.enumAccess? names site.node = some step ↔
        reading.KnownBefore enums sites j (reading.nameOf target)) ∧
      (reading.KnownBefore enums sites j (reading.nameOf target) →
        step = Step.stop (mark site.node .typescript)) ∧
      (¬ reading.KnownBefore enums sites j (reading.nameOf target) →
        step = Step.through site.node (mark site.node .javascript)) := by
  obtain ⟨names, hvisit, hknown⟩ := h.known hsite hstep
  refine ⟨names, hvisit, hknown, ?_⟩
  have hanswer := hvisit
  rw [visit_member hkind, enumAccess?_eq htarget hidentifier] at hanswer
  rw [enumAccess?_eq htarget hidentifier, ← hknown]
  by_cases hmem : reading.nameOf target ∈ names
  · rw [if_pos hmem] at hanswer
    cases hanswer
    simp [hmem]
  · rw [if_neg hmem] at hanswer
    cases hanswer
    simp [hmem]

/-- A visited node is taken as one piece of typed language: the step there emits its mark and
nothing else, and nothing below it is visited. -/
def Trace.TakesWhole (trace : Trace) (site : Site) (step : Step) : Prop :=
  step.emitted = mark site.node .typescript ∧ ∀ below ∈ site.below, below ∉ trace.visited

/-- A node that is base language with its content visited is not taken as one piece, provided that
it emits anything or has any content. -/
lemma Trace.not_takesWhole {trace : Trace}
    (hmark : step.emitted = mark site.node .javascript)
    (hcontent : ∀ child ∈ site.content, child ∈ trace.visited)
    (htold : site.node.start < site.node.stop ∨ site.content ≠ []) :
    ¬ trace.TakesWhole site step := by
  rintro ⟨hwhole, hbelow⟩
  rcases htold with hnonempty | hinhabited
  · let c : Candidate := ⟨⟨site.node.start, site.node.stop, hnonempty⟩, .javascript, 1⟩
    have hc : c ∈ mark site.node .javascript := mem_mark.mpr ⟨rfl, rfl, rfl, rfl⟩
    rw [← hmark, hwhole] at hc
    cases (mem_mark.mp hc).2.2.1
  · obtain ⟨child, hchild⟩ := List.exists_mem_of_ne_nil _ hinhabited
    have hunder := Site.mem_subtree_self child
    exact hbelow child (List.mem_flatMap.mpr
      ⟨child, (Site.content_sublist_children site).subset hchild, hunder⟩) (hcontent child hchild)

/-- **Enumerations are known from their declarations on**: for a tree on the boundaries of its text
there are a document and a walk. For whatever document and walk there are, the names at the end are
those at the start and what the visited nodes declare. A visited member of a name is taken by the
rule of enumerations exactly if the name was known at the start or a node visited before declares
it. It is then typed language in one piece, and nothing below it is visited; otherwise it is base
language, and its content is visited. -/
theorem members_by_declaration (vocabulary : Vocabulary) (enums : NameSet) (text : List Char)
    (tree : Node) :
    (OnBoundaries text tree →
      ∃ document trace, Document.ofTree (SourceText.ofText text) tree = .ok document ∧
        document.walk vocabulary enums = .ok trace) ∧
    ∀ document trace, Document.ofTree (SourceText.ofText text) tree = .ok document →
      document.walk vocabulary enums = .ok trace →
      (∀ name, name ∈ trace.enums ↔ name ∈ enums ∨
        ∃ site ∈ trace.visited, Reading.Declares ⟨text, vocabulary⟩ site.node name) ∧
      ∃ steps, Reading.Takes ⟨text, vocabulary⟩ enums trace.visited steps ∧
        trace.emitted = steps.flatMap Step.emitted ∧
        ∀ j site step target, trace.visited[j]? = some site → steps[j]? = some step →
          site.node.kind = "member_expression" → site.node.field? "object" = some target →
          target.kind = "identifier" →
          let known := Reading.KnownBefore ⟨text, vocabulary⟩ enums trace.visited j
            (Reading.nameOf ⟨text, vocabulary⟩ target)
          (∃ names, Reading.visit ⟨text, vocabulary⟩ names site = .ok step ∧
            (∀ name, name ∈ names ↔
              Reading.KnownBefore ⟨text, vocabulary⟩ enums trace.visited j name) ∧
            (Reading.enumAccess? ⟨text, vocabulary⟩ names site.node = some step ↔ known)) ∧
          (known → trace.TakesWhole site step) ∧
          (¬ known → step.emitted = mark site.node .javascript ∧
            ∀ child ∈ site.content, child ∈ trace.visited) ∧
          (site.node.start < site.node.stop ∨ site.content ≠ [] →
            (trace.TakesWhole site step ↔ known)) := by
  refine ⟨fun hboundaries => ?_, fun document trace hdocument hwalk => ?_⟩
  · obtain ⟨document, trace, -, hdocument, hwalk, -⟩ :=
      exists_run vocabulary enums (fun _ => tree) hboundaries
    exact ⟨document, trace, hdocument, hwalk⟩
  · obtain ⟨root, -, rfl⟩ := Document.ofTree_eq_ok_iff.mp hdocument
    have hwalks := Reading.walk_eq_ok_iff.mp hwalk
    obtain ⟨steps, htakes, hemitted⟩ := hwalks.exists_takes
    refine ⟨fun name => hwalks.mem_enums_iff, steps, htakes, hemitted, ?_⟩
    intro j site step target hsite hstep hkind htarget hidentifier known
    obtain ⟨names, hvisit, hnames, haccess, hwhole, hbase⟩ :=
      htakes.member hsite hstep hkind htarget hidentifier
    have hnodup : (([Site.root root].flatMap Site.subtree).map Site.trail).Nodup := by
      rw [List.flatMap_singleton]
      exact Site.nodup_trails _
    have htaken : known → trace.TakesWhole site step := by
      intro hknown
      obtain rfl := hwhole hknown
      refine ⟨rfl, fun below hbelow hvisited => ?_⟩
      obtain ⟨next, hnext, -⟩ :=
        hwalks.visited_below htakes hnodup hsite hstep hbelow hvisited
      simp [Step.stop, Site.descend] at hnext
    have hopened : ¬ known → step.emitted = mark site.node .javascript ∧
        ∀ child ∈ site.content, child ∈ trace.visited := by
      intro hunknown
      obtain rfl := hbase hunknown
      refine ⟨rfl, fun child hchild => hwalks.descend_visited htakes hsite hstep child ?_⟩
      exact (Site.descend_enterAll site).symm ▸ hchild
    refine ⟨⟨names, hvisit, hnames, haccess⟩, htaken, hopened,
      fun htold => ⟨fun htakesWhole => ?_, htaken⟩⟩
    by_contra hunknown
    obtain ⟨hmark, hcontent⟩ := hopened hunknown
    exact Trace.not_takesWhole hmark hcontent htold htakesWhole

/-- An enumeration, and a member of something else. -/
def memberText : List Char :=
  "enum é \x7b\x7d x.a".toList

/-- The tree of that text, where the enumeration ends at `stop` and its name at `nameStop`. -/
def memberTree (nameStop stop : Nat) : Node :=
  .construct "program" 0 (stop + 4)
    [.construct "enum_declaration" 0 stop
        [.token "enum" 0 4,
          { Node.construct "identifier" 5 nameStop [] with field := some "name" },
          .construct "enum_body" (nameStop + 1) stop []],
      .construct "member_expression" (stop + 1) (stop + 4)
        [{ Node.construct "identifier" (stop + 1) (stop + 2) [] with field := some "object" },
          .token "." (stop + 2) (stop + 3),
          .construct "property_identifier" (stop + 3) (stop + 4) []]]

/-- The name of the enumeration is known at the end, and the member is taken whole for a name that
is known from the start. -/
theorem members_by_declaration_initial :
    OnBoundaries memberText (memberTree 7 10) ∧
      ∃ document trace,
        Document.ofTree (SourceText.ofText memberText) (memberTree 7 10) = .ok document ∧
          document.walk .default (NameSet.ofList ["x"]) = .ok trace ∧ "é" ∈ trace.enums ∧
          ∃ site ∈ trace.visited, site.node.kind = "member_expression" ∧
            ∃ step, trace.TakesWhole site step := by
  have hboundaries : OnBoundaries memberText (memberTree 7 10) := by decide +kernel
  obtain ⟨hexists, hall⟩ :=
    members_by_declaration .default (NameSet.ofList ["x"]) memberText (memberTree 7 10)
  obtain ⟨document, trace, hdocument, hwalk⟩ := hexists hboundaries
  have hplace : Document.ofTree (SourceText.ofText memberText) (memberTree 7 10) =
      .ok (Document.ofPlaced memberText (memberTree 6 9)) := by rfl
  obtain rfl : Document.ofPlaced memberText (memberTree 6 9) = document :=
    Except.ok.inj (hplace.symm.trans hdocument)
  obtain ⟨hnames, steps, htakes, -, hmembers⟩ := hall _ trace hdocument hwalk
  -- both children of the root are visited
  have hvisited : ∀ child ∈ (memberTree 6 9).content, ∃ site ∈ trace.visited, site.node = child :=
    fun child hchild => mem_visited_of_content hwalk (by decide +kernel) hchild
  obtain ⟨declaration, hdeclaration, hnode⟩ := hvisited _ List.mem_cons_self
  obtain ⟨site, hsite, hmember⟩ := hvisited _ (List.mem_cons_of_mem _ List.mem_cons_self)
  obtain ⟨j, hj⟩ := List.mem_iff_getElem?.mp hsite
  obtain ⟨step, hstep⟩ := htakes.exists_step hj
  refine ⟨hboundaries, _, trace, hdocument, hwalk, (hnames _).mpr (Or.inr ?_), site, hsite, ?_,
    step, ?_⟩
  · refine ⟨declaration, hdeclaration, ?_⟩
    rw [hnode]
    exact ⟨_, _, rfl, Or.inl rfl, rfl, by decide +kernel⟩
  · rw [hmember]
    rfl
  · have hinitial := (hmembers j site step _ hj hstep (by rw [hmember]; rfl)
      (by rw [hmember]; rfl) rfl).2.1
    exact hinitial (Or.inl (by decide +kernel))

end SourceLayers
