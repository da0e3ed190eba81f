/-
Lists of types between angle brackets:

* `Node.typeList?`: the list of types of a call, a construction, a class, a function or a method;
* `IsBracketed`: a list that begins with `<`, right before its first entry, and ends with `>`;
* `mem_bracketMarks_iff`: such a list is marked up to where its brackets first balance;
* `forall_covers_iff`: that is all of it exactly if they do not balance before its end;
* `visit_typeList`: the step at a node marks its list and goes on to it;
* `heldBy_entry`: the types in the list are held whatever the brackets are like.

The brackets are counted in the text, whatever they stand for there. Main statement:
`typeList_held`, that a list is typed language, or the library, up to the end that the count finds.
-/
import Mathlib.Tactic
import SourceLayers.Proofs.Brackets
import SourceLayers.Proofs.Coverage
import SourceLayers.Proofs.Superposition

namespace SourceLayers

/-! ### Lists and their brackets -/

/-- The field in which the nodes of a rule keep their list of types. -/
def Rule.listField? : Rule → Option String
  | .call | .construction => some "type_arguments"
  | .classDeclaration | .functionDeclaration | .methodDeclaration => some "type_parameters"
  | _ => none

/-- The list of types of a node. -/
def Node.typeList? (node : Node) : Option Node :=
  ((Rule.ofKind? node.kind).bind Rule.listField?).bind node.field?

/-- A list begins with `<` and ends with `>`, and has a first entry that only blanks keep apart from
the one at the start. -/
def IsBracketed (text : List Char) (list : Node) : Prop :=
  (cut text list.start list.stop).head? = some '<' ∧
    (cut text list.start list.stop).getLast? = some '>' ∧
    ∃ entry ∈ list.content.head?, list.start < entry.start ∧
      isBlankText (cut text (list.start + 1) entry.start) = true

instance (text : List Char) (list : Node) : Decidable (IsBracketed text list) :=
  inferInstanceAs (Decidable (_ ∧ _))

variable {text : List Char} {list : Node}

/-- The bracket at the start of a list is the last one before the first entry. -/
lemma IsBracketed.exists_isOpening (h : IsBracketed text list) :
    ∃ entry, list.content.head? = some entry ∧ IsOpening text entry.start list.start := by
  obtain ⟨hhead, -, entry, hentry, hbefore, hblank⟩ := h
  have hopen := (head?_cut_eq_some hhead).2
  refine ⟨entry, hentry, by exact_mod_cast hbefore, hopen, fun hmem => ?_⟩
  have hnot : isBlank '<' = false := by decide
  rw [List.all_eq_true.mp hblank '<' hmem] at hnot
  cases hnot

lemma IsBracketed.start_lt_stop (h : IsBracketed text list) : list.start < list.stop :=
  (head?_cut_eq_some h.1).1

/-- A text with such a list is not blank. -/
lemma IsBracketed.isBlankText_eq_false (h : IsBracketed text list) : isBlankText text = false := by
  obtain ⟨-, -, -, hopen, -⟩ := h.exists_isOpening
  rw [isBlankText, List.all_eq_false]
  exact ⟨'<', List.mem_of_getElem? hopen, by decide⟩

/-! ### What is marked -/

variable {reading : Reading} {enums : NameSet} {site : Site} {step : Step}

/-- The mark of a list ends where the brackets first balance; there is none if they never do. -/
lemma mem_bracketMarks_iff (h : IsBracketed reading.text list) {c : Candidate} :
    c ∈ reading.bracketMarks (some list) ↔
      c.start = list.start ∧ IsLeast {stop | Balances reading.text list.start stop} c.stop ∧
        c.layer = .typescript ∧ c.priority = Layer.typescript.priority := by
  obtain ⟨entry, hentry, hopening⟩ := h.exists_isOpening
  have hrange : ∀ a b, bracketRange? reading.text entry.start = some (a, b) ↔
      list.start = a ∧ IsLeast {stop | Balances reading.text list.start stop} b := by
    intro a b
    rw [bracketRange?_eq_some_iff_isLeast]
    constructor
    · rintro ⟨hother, hleast⟩
      obtain rfl := hopening.unique hother
      exact ⟨rfl, hleast⟩
    · rintro ⟨rfl, hleast⟩
      exact ⟨hopening, hleast⟩
  simp only [Reading.bracketMarks, Option.bind_some, hentry]
  cases hfound : bracketRange? reading.text entry.start with
  | none =>
      simp only [List.not_mem_nil, false_iff]
      rintro ⟨-, hleast, -⟩
      rw [(hrange list.start c.stop).mpr ⟨rfl, hleast⟩] at hfound
      cases hfound
  | some range =>
      obtain ⟨hstart, hleast⟩ := (hrange range.1 range.2).mp hfound
      simp only [mem_claim, Nat.cast_inj, ← hstart]
      refine and_congr_right fun _ => and_congr_left fun _ => ?_
      exact ⟨fun heq => heq ▸ hleast, fun hother => hother.unique hleast⟩

/-- The mark covers a list as a whole exactly if the brackets balance at its end or after it, but
not before. -/
lemma forall_covers_iff (h : IsBracketed reading.text list) :
    (∀ p, list.Spans p → ∃ c ∈ reading.bracketMarks (some list), c.Covers p) ↔
      ∃ stop, IsLeast {stop | Balances reading.text list.start stop} stop ∧ list.stop ≤ stop := by
  have hlt := h.start_lt_stop
  constructor
  · intro hcovered
    obtain ⟨c, hc, -, hlast⟩ := hcovered (list.stop - 1) ⟨by omega, by omega⟩
    exact ⟨c.stop, ((mem_bracketMarks_iff h).mp hc).2.1, by omega⟩
  · rintro ⟨stop, hleast, hle⟩ p ⟨hfirst, hlast⟩
    let c : Candidate := ⟨⟨list.start, stop, by omega⟩, .typescript, Layer.typescript.priority⟩
    exact ⟨c, (mem_bracketMarks_iff h).mpr ⟨rfl, hleast, rfl, rfl⟩, hfirst, hlast.trans_le hle⟩

/-- A rule for nodes with lists always answers. -/
lemma Rule.mayDecline_of_listField? {rule : Rule} {field : String}
    (h : rule.listField? = some field) : rule.mayDecline = false := by
  cases rule with
  | call | construction | classDeclaration | functionDeclaration | methodDeclaration => rfl
  | _ => cases h

/-- The step at a node with a list visits all content and marks the list. -/
lemma visit_typeList (hlist : site.node.typeList? = some list)
    (h : reading.visit enums site = .ok step) :
    step.fates = Step.enterAll site.node ∧
      ∀ c ∈ reading.bracketMarks (some list), c ∈ step.emitted := by
  obtain ⟨field, hfield, hlist⟩ := Option.bind_eq_some_iff.mp hlist
  obtain ⟨rule, hrule, hfield⟩ := Option.bind_eq_some_iff.mp hfield
  rcases visit_cases h with ⟨other, hother, happly⟩ | ⟨-, hdeclined⟩
  · obtain rfl := Option.some.inj (hrule.symm.trans hother)
    cases rule with
    | call =>
        cases hfield
        cases happly
        exact ⟨rfl, fun c hc => List.mem_append_left _ (hlist ▸ hc)⟩
    | construction | classDeclaration | functionDeclaration | methodDeclaration =>
        cases hfield
        cases happly
        exact ⟨rfl, fun c hc => List.mem_append_right _ (hlist ▸ hc)⟩
    | _ => cases hfield
  · have hmay := Rule.mayDecline_of_apply (hdeclined rule hrule)
    rw [Rule.mayDecline_of_listField? hfield] at hmay
    cases hmay

/-! ### The entries of a list -/

/-- A reference to a type that is not in a class by itself is typed language or the library. -/
lemma visit_marks_reference (hkind : site.node.kind ∈ referenceKinds) {parent : Node}
    (hparent : site.parent = some parent) (hclass : parent.kind ∉ classKinds)
    (h : reading.visit enums site = .ok step) :
    ∃ layer, step.Marks site.node layer ∧ layer ∈ [Layer.typescript, .react] := by
  have hnone : ∀ kind ∈ referenceKinds, Rule.ofKind? kind = none := by decide +kernel
  have hlayer : reading.defaultLayer? site = some (reading.referenceLayer site) :=
    if_pos (List.contains_iff_mem.mpr hkind)
  rcases visit_cases h with ⟨rule, hrule, -⟩ | ⟨rfl, -⟩
  · rw [hnone _ hkind] at hrule
    cases hrule
  · refine ⟨_, defaultStep_marks_of_layer hlayer, ?_⟩
    have hname : isClassName site = false := by
      simp [isClassName, hparent, hclass]
    rw [Reading.referenceLayer, hname, if_neg Bool.false_ne_true]
    split_ifs <;> decide

variable {vocabulary : Vocabulary} {parse : List Char → Node}

/-- The types in the list of a visited node are typed language or the library. -/
lemma heldBy_entry {document : Document} {trace : Trace}
    (hwalk : document.walk vocabulary enums = .ok trace) (hsite : site ∈ trace.visited)
    (hlist : site.node.typeList? = some list) (hcontent : list.isContent = true)
    (hrule : Rule.ofKind? list.kind = none) {entry : Node} (hentry : entry ∈ list.content)
    (hkind : entry.kind ∈ typedKinds ++ referenceKinds) (length : Nat) :
    entry.HeldBy (resolve (trace.emitted ++ document.commentCandidates) length) length
      [.typescript, .react] := by
  have hwalks := Reading.walk_eq_ok_iff.mp hwalk
  have hchild : list ∈ site.node.content := by
    obtain ⟨field, -, hfield⟩ := Option.bind_eq_some_iff.mp hlist
    exact List.mem_filter.mpr ⟨List.mem_of_find?_eq_some hfield, hcontent⟩
  obtain ⟨above, habove, rfl, -⟩ := hwalks.exists_visited_of_content hsite
    (fun known step hvisit => (visit_typeList hlist hvisit).1) hchild
  obtain ⟨below, hbelow, rfl, hparent⟩ := hwalks.exists_visited_of_content habove
    (fun known step hvisit => fates_of_no_rule hrule hvisit) hentry
  refine heldBy_of_visited hwalk hbelow (fun known step hvisit => ?_) length
  rcases List.mem_append.mp hkind with htyped | hreference
  · exact ⟨.typescript, visit_marks_typed htyped hvisit, fun _ h => h⟩
  · have hclasses : ∀ kind ∈ classKinds, Rule.ofKind? kind ≠ none := by decide +kernel
    obtain ⟨layer, hmarks, hlayer⟩ :=
      visit_marks_reference hreference hparent (fun hclass => hclasses _ hclass hrule) hvisit
    have hupward : ∀ layer ∈ [Layer.typescript, .react], ∀ other ∈ layer.upward,
        other ∈ [Layer.typescript, .react] := by decide
    exact ⟨layer, hmarks, hupward layer hlayer⟩

/-- **Lists of types**: for a tree on the boundaries of its text there are a document and a walk.
For whatever document and walk there are, the list of each visited node is marked up to where its
brackets, counted in the text, first balance. That is all of it exactly if they balance at its end
or after it, but not before. So far the list is typed language or the library, and so are its types
wherever they stand; it is as a whole, its last bracket too, if the mark covers all of it. -/
theorem typeList_held (vocabulary : Vocabulary) (parse : List Char → Node) (text : List Char) :
    (OnBoundaries text (parse text) →
      ∃ document trace, Document.ofTree (SourceText.ofText text) (parse text) = .ok document ∧
        document.walk vocabulary NameSet.empty = .ok trace) ∧
    ∀ document trace, Document.ofTree (SourceText.ofText text) (parse text) = .ok document →
      document.walk vocabulary NameSet.empty = .ok trace →
      ∃ result, classify vocabulary parse text = .ok result ∧
        ∀ site ∈ trace.visited, ∀ list, site.node.typeList? = some list →
          IsBracketed text list →
          (∀ c ∈ Reading.bracketMarks ⟨text, vocabulary⟩ (some list), c ∈ trace.emitted) ∧
          ((∀ p, list.Spans p →
              ∃ c ∈ Reading.bracketMarks ⟨text, vocabulary⟩ (some list), c.Covers p) ↔
            ∃ stop, IsLeast {stop | Balances text list.start stop} stop ∧ list.stop ≤ stop) ∧
          (∀ stop, IsLeast {stop | Balances text list.start stop} stop →
            ∀ p, list.start ≤ p → p < stop →
              HeldAt result.regions p [.typescript, .react]) ∧
          (list.isContent = true → Rule.ofKind? list.kind = none →
            ∀ entry ∈ list.content, entry.kind ∈ typedKinds ++ referenceKinds →
              entry.HeldBy result.regions text.length [.typescript, .react]) ∧
          ((∃ stop, IsLeast {stop | Balances text list.start stop} stop ∧ list.stop ≤ stop) →
            list.HeldBy result.regions text.length [.typescript, .react]) := by
  refine ⟨exists_walk_of_onBoundaries vocabulary parse, ?_⟩
  intro document trace hdocument hwalk
  obtain ⟨result, hresult, hregions⟩ := exists_classify_of_walk hdocument hwalk
  refine ⟨result, hresult, fun site hsite list hlist hbracketed => ?_⟩
  rw [hregions hbracketed.isBlankText_eq_false]
  obtain ⟨root, -, rfl⟩ := Document.ofTree_eq_ok_iff.mp hdocument
  have hmarks : ∀ c ∈ Reading.bracketMarks ⟨text, vocabulary⟩ (some list),
      c ∈ trace.emitted := by
    obtain ⟨known, step, hvisit, hemitted, -⟩ :=
      (Reading.walk_eq_ok_iff.mp hwalk).step_of_visited hsite
    exact fun c hc => hemitted c ((visit_typeList hlist hvisit).2 c hc)
  have hcounted : ∀ stop, IsLeast {stop | Balances text list.start stop} stop →
      ∀ p, list.start ≤ p → p < stop →
        HeldAt (resolve (trace.emitted ++ (Document.ofPlaced text root).commentCandidates)
          text.length) p [.typescript, .react] := by
    intro stop hleast p hfirst hlast
    obtain ⟨hlt, hlength, -⟩ := hleast.1
    let c : Candidate := ⟨⟨list.start, stop, hlt⟩, .typescript, Layer.typescript.priority⟩
    have hc : c ∈ Reading.bracketMarks ⟨text, vocabulary⟩ (some list) :=
      (mem_bracketMarks_iff hbracketed).mpr ⟨rfl, hleast, rfl, rfl⟩
    exact heldAt_of_emitted hwalk (hmarks c hc) ⟨hfirst, hlast⟩ (hlast.trans_le hlength)
  refine ⟨hmarks, forall_covers_iff hbracketed, hcounted, ?_, ?_⟩
  · intro hcontent hrule entry hentry hkind
    exact heldBy_entry hwalk hsite hlist hcontent hrule hentry hkind _
  · rintro ⟨stop, hleast, hle⟩ p ⟨hfirst, hlast⟩ -
    exact hcounted stop hleast p hfirst (hlast.trans_le hle)

/-- A call with a list in its list, around a name of two octets. -/
def listedText : List Char :=
  "f<A<é>>()".toList

/-- The outer list, whose end is `stop`. -/
def listedTypes (stop : Nat) : Node :=
  { Node.construct "type_arguments" 1 stop
      [.token "<" 1 2,
        .construct "generic_type" 2 (stop - 1)
          [.construct "type_identifier" 2 3 [],
            .construct "type_arguments" 3 (stop - 1)
              [.token "<" 3 4, .construct "type_identifier" 4 (stop - 2) [],
                .token ">" (stop - 2) (stop - 1)]],
        .token ">" (stop - 1) stop]
    with field := some "type_arguments" }

/-- The call. -/
def listedCall (stop : Nat) : Node :=
  .construct "call_expression" 0 (stop + 2)
    [{ Node.construct "identifier" 0 1 [] with field := some "function" }, listedTypes stop,
      .construct "arguments" stop (stop + 2)
        [.token "(" stop (stop + 1), .token ")" (stop + 1) (stop + 2)]]

/-- The tree of the text. -/
def listedTree (stop : Nat) : Node :=
  .construct "program" 0 (stop + 2) [listedCall stop]

/-- The outer list ends at the bracket that balances it, and it is held up to there. -/
theorem typeList_held_nested :
    OnBoundaries listedText (listedTree 8) ∧ IsBracketed listedText (listedTypes 7) ∧
      IsLeast {stop | Balances listedText 1 stop} 7 ∧
      ∃ result, classify .default (fun _ => listedTree 8) listedText = .ok result ∧
        (listedTypes 7).HeldBy result.regions 9 [.typescript, .react] := by
  have hboundaries : OnBoundaries listedText (listedTree 8) := by decide +kernel
  have hbracketed : IsBracketed listedText (listedTypes 7) := by decide +kernel
  have hrange : bracketRange? listedText 2 = some (1, 7) := by decide +kernel
  have hleast := (bracketRange?_eq_some_iff_isLeast.mp hrange).2
  obtain ⟨hexists, hheld⟩ := typeList_held .default (fun _ => listedTree 8) listedText
  obtain ⟨document, trace, hdocument, hwalk⟩ := hexists hboundaries
  have hplace : Document.ofTree (SourceText.ofText listedText) (listedTree 8) =
      .ok (Document.ofPlaced listedText (listedTree 7)) := by rfl
  obtain rfl : Document.ofPlaced listedText (listedTree 7) = document :=
    Except.ok.inj (hplace.symm.trans hdocument)
  obtain ⟨result, hresult, hvisited⟩ := hheld _ trace hdocument hwalk
  obtain ⟨site, hsite, hnode⟩ : ∃ site ∈ trace.visited, site.node = listedCall 7 :=
    mem_visited_of_content hwalk (by decide +kernel) List.mem_cons_self
  have hlist : site.node.typeList? = some (listedTypes 7) := by
    rw [hnode]
    rfl
  obtain ⟨-, -, -, -, hwhole⟩ := hvisited site hsite _ hlist hbracketed
  exact ⟨hboundaries, hbracketed, hleast, result, hresult, hwhole ⟨7, hleast, le_rfl⟩⟩

/-- A call with the type of a function in its list. -/
def arrowText : List Char :=
  "useRef<(x: number) => void>(null)".toList

/-- The tree of that call. -/
def arrowTree : Node :=
  .construct "program" 0 33
    [.construct "expression_statement" 0 33
      [.construct "call_expression" 0 33
        [{ Node.construct "identifier" 0 6 [] with field := some "function" },
          { Node.construct "type_arguments" 6 27
              [.token "<" 6 7,
                .construct "function_type" 7 26
                  [.construct "formal_parameters" 7 18
                      [.token "(" 7 8,
                        .construct "required_parameter" 8 17
                          [.construct "identifier" 8 9 [],
                            { Node.construct "type_annotation" 9 17
                                [.token ":" 9 10, .construct "predefined_type" 11 17 []]
                              with field := some "type" }],
                        .token ")" 17 18],
                    .token "=>" 19 21, .construct "predefined_type" 22 26 []],
                .token ">" 26 27]
            with field := some "type_arguments" },
          { Node.construct "arguments" 27 33
              [.token "(" 27 28, .construct "null" 28 32 [], .token ")" 32 33]
            with field := some "arguments" }]]]

/-- The count takes the arrow for the end of the list, and so the last bracket is lost to the base
language. -/
theorem typeList_lost_after_arrow :
    OnBoundaries arrowText arrowTree ∧ IsLeast {stop | Balances arrowText 6 stop} 21 ∧
      ∃ document trace result,
        Document.ofTree (SourceText.ofText arrowText) arrowTree = .ok document ∧
        document.walk .default NameSet.empty = .ok trace ∧
        classify .default (fun _ => arrowTree) arrowText = .ok result ∧
        HasLayer result.regions 26 .javascript ∧
        ∃ site ∈ trace.visited, ∃ list, site.node.typeList? = some list ∧
          IsBracketed arrowText list ∧ list.Spans 26 ∧
          ¬ list.HeldBy result.regions arrowText.length [.typescript, .react] := by
  have hboundaries : OnBoundaries arrowText arrowTree := by decide +kernel
  have hrange : bracketRange? arrowText 7 = some (6, 21) := by decide +kernel
  have hblank : isBlankText arrowText = false := by decide +kernel
  have hdocument : Document.ofTree (SourceText.ofText arrowText) arrowTree =
      .ok (Document.ofPlaced arrowText arrowTree) := by rfl
  have hwithin : ∃ trace ∈ Reading.walkWithin ⟨arrowText, .default⟩ 14 NameSet.empty
      [Site.root arrowTree],
      layerAtLinear (resolve trace.emitted arrowText.length) 26 = some .javascript ∧
        ∃ site ∈ trace.visited, ∃ list ∈ site.node.typeList?,
          IsBracketed arrowText list ∧ list.Spans 26 := by decide +kernel
  obtain ⟨trace, hwalk, hlayer, site, hsite, list, hlist, hbracketed, hspans⟩ :=
    Reading.exists_walk_of_walkWithin hwithin
  obtain ⟨result, hresult, hshown⟩ :=
    exists_classify_showing (fun _ => arrowTree) hblank hdocument hwalk
  have hlost : HasLayer result.regions 26 .javascript := hshown 26 _ hlayer
  refine ⟨hboundaries, (bracketRange?_eq_some_iff_isLeast.mp hrange).2, _, trace, result,
    hdocument, hwalk, hresult, hlost, site, hsite, list, hlist, hbracketed, hspans, fun hheld => ?_⟩
  obtain ⟨region, hregion, hcovers, hjavascript⟩ := hlost
  have hmem := (hheld 26 hspans (by decide)).2 region hregion hcovers
  rw [hjavascript] at hmem
  exact absurd hmem (by decide)

end SourceLayers
