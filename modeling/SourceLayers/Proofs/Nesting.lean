/-
Calls that nest as deep as the tree:

* `Node.searchDepth`: how deep the calls of the search for a recovered assignment nest. With room
  for them the search finds what it finds without a limit, and with less it has a fault
  (`recoveredAssignmentUpTo?_eq`);
* `Node.callDepth`: how deep the calls of a node's rule nest. It decides about the rule
  (`Rule.applyUpTo_eq`), and so about the step (`Reading.visitUpTo_eq`);
* `Trace.NestsWithin`: all visited nodes have room for their calls. It decides about the walk
  (`Reading.Walks.walkUpTo_eq`), and so about the classification (`classifyUpTo_eq`);
* `Node.callDepth_of_mapOffsets`: where a tree is placed does not matter for its calls;
* `awaitsTree`: awaits in awaits, whose search nests as deep as they do
  (`searchDepthAmong_awaitsFrom`).

Main statement: `classifyUpTo_total`, that a classification has a result unless a visited node has
no room for its calls, whatever else the tree is like. A tree of awaits on the boundaries of its
text has none (`classifyUpTo_awaits`).
-/
import Mathlib.Tactic
import SourceLayers.Proofs.Coverage
import SourceLayers.Proofs.Recursion

namespace SourceLayers

/-! ### The search -/

namespace Node

mutual
/-- How deep the calls of a search for an assignment nest: one call for the node, and below it those
for its errors and awaits, up to the first in which an assignment is found. -/
def searchDepth : Node → Nat
  | ⟨_, _, _, _, _, _, children⟩ => searchDepthAmong children + 1

/-- The same for the calls among some children. -/
def searchDepthAmong : List Node → Nat
  | [] => 0
  | child :: rest =>
    if !child.isContent then searchDepthAmong rest
    else if child.kind == "assignment_expression" then 0
    else if child.kind == "ERROR" || child.kind == "await_expression" then
      if (recoveredAssignment? child).isSome then searchDepth child
      else max (searchDepth child) (searchDepthAmong rest)
    else searchDepthAmong rest
end

lemma searchDepth_eq (node : Node) : node.searchDepth = searchDepthAmong node.children + 1 := by
  cases node
  rfl

end Node

lemma recoveredAssignment?_eq (node : Node) :
    recoveredAssignment? node = recoveredAssignmentAmong? node.children := by
  cases node
  rfl

/-- The search among some children has room for its calls, or a fault, once this is so of the search
below each of them. -/
lemma recoveredAssignmentAmongUpTo?_eq {room : Nat} {nodes : List Node}
    (h : ∀ child ∈ nodes, recoveredAssignmentUpTo? room child =
      if child.searchDepth ≤ room then .ok (recoveredAssignment? child) else .error {}) :
    recoveredAssignmentAmongUpTo? room nodes =
      if Node.searchDepthAmong nodes ≤ room then .ok (recoveredAssignmentAmong? nodes)
      else .error {} := by
  induction nodes with
  | nil => rfl
  | cons child rest ih =>
      rw [List.forall_mem_cons] at h
      have hrest := ih h.2
      rw [recoveredAssignmentAmongUpTo?, Node.searchDepthAmong, recoveredAssignmentAmong?]
      cases child.isContent with
      | false => exact hrest
      | true =>
          by_cases hassignment : (child.kind == "assignment_expression") = true
          · simp [hassignment]
          by_cases hpassage : (child.kind == "ERROR" || child.kind == "await_expression") = true
          · -- the rest is searched only where the child has room and holds no assignment
            simp only [hassignment, hpassage, h.1, hrest, Bool.not_true, Bool.false_eq_true,
              if_true, if_false]
            by_cases hroom : child.searchDepth ≤ room
            · cases recoveredAssignment? child with
              | none => simp [hroom]
              | some found => simp [hroom]
            · cases recoveredAssignment? child with
              | none => simp [hroom]
              | some found => simp [hroom]
          · simpa [hassignment, hpassage] using hrest

/-- **A search needs room for its calls only**: with it the search ends as it does without a limit,
and else it has a fault. -/
theorem recoveredAssignmentUpTo?_eq (room : Nat) (node : Node) :
    recoveredAssignmentUpTo? room node =
      if node.searchDepth ≤ room then .ok (recoveredAssignment? node) else .error {} := by
  induction node using Node.ind generalizing room with
  | _ node ih =>
      rw [Node.searchDepth_eq, recoveredAssignment?_eq]
      cases room with
      | zero =>
          rw [if_neg (by omega)]
          cases node
          rfl
      | succ room =>
          have hchildren :=
            recoveredAssignmentAmongUpTo?_eq fun child hchild => ih child hchild room
          simp only [Nat.add_le_add_iff_right, ← hchildren]
          cases node
          rfl

/-! ### Rules and steps -/

/-- How deep the calls of a rule nest at a node. A statement is looked at one call before its search
begins. -/
def Rule.callDepth (node : Node) : Rule → Nat
  | .expressionStatement => if node.isTextAlone then 0 else node.searchDepth + 1
  | .awaitExpression => node.searchDepth
  | _ => 0

/-- How deep the calls of a node's rule nest. -/
def Node.callDepth (node : Node) : Nat :=
  match Rule.ofKind? node.kind with
  | none => 0
  | some rule => rule.callDepth node

variable {reading : Reading} {enums : NameSet} {stack : List Site} {trace : Trace}

namespace Reading

lemma recoveredUsingUpTo?_eq (reading : Reading) (room : Nat) (node : Node) :
    reading.recoveredUsingUpTo? room node =
      if node.searchDepth ≤ room then .ok (reading.recoveredUsing? node) else .error {} := by
  rw [recoveredUsingUpTo?, recoveredAssignmentUpTo?_eq]
  split_ifs <;> rfl

/-- A statement that is no text alone is searched. -/
lemma expressionStatement?_of_not_isTextAlone {node : Node} (h : node.isTextAlone = false) :
    reading.expressionStatement? node = reading.recoveredUsing? node := by
  rw [Node.isTextAlone] at h
  rw [expressionStatement?]
  split
  · rename_i only honly
    rw [honly] at h
    rw [if_neg (by simpa using h)]
  · rfl

end Reading

/-- A rule that has room for its calls answers as it does without a limit, and else it has a
fault. -/
lemma Rule.applyUpTo_eq (reading : Reading) (room : Nat) (enums : NameSet) (site : Site)
    (rule : Rule) :
    rule.applyUpTo reading room enums site =
      if rule.callDepth site.node ≤ room then (rule.apply reading enums site).mapError .offset
      else .error (.depth {}) := by
  cases rule with
  | expressionStatement =>
      rw [applyUpTo, Reading.expressionStatementUpTo?, callDepth]
      cases halone : site.node.isTextAlone with
      | true => rfl
      | false =>
          have hroom : site.node.searchDepth ≤ room - 1 ↔ site.node.searchDepth + 1 ≤ room := by
            rw [Node.searchDepth_eq]
            omega
          simp only [Bool.false_eq_true, if_false, Reading.recoveredUsingUpTo?_eq, hroom, apply,
            Reading.expressionStatement?_of_not_isTextAlone halone]
          split_ifs <;> rfl
  | awaitExpression =>
      rw [applyUpTo, Reading.recoveredUsingUpTo?_eq, callDepth, apply]
      split_ifs <;> rfl
  | _ => rfl

/-- A step has a fault where its rule has no room for its calls, and is the same otherwise. -/
lemma Reading.visitUpTo_eq (reading : Reading) (room : Nat) (enums : NameSet) (site : Site) :
    reading.visitUpTo room enums site =
      if site.node.callDepth ≤ room then (reading.visit enums site).mapError .offset
      else .error (.depth {}) := by
  rw [visitUpTo, visit, Node.callDepth]
  cases Rule.ofKind? site.node.kind with
  | none => rfl
  | some rule =>
      simp only [Rule.applyUpTo_eq]
      split_ifs
      · cases rule.apply reading enums site <;> rfl
      · rfl

/-! ### Walks -/

/-- Whether all visited nodes have room for the calls of their rules. -/
def Trace.NestsWithin (trace : Trace) (room : Nat) : Prop :=
  ∀ site ∈ trace.visited, site.node.callDepth ≤ room

instance (trace : Trace) (room : Nat) : Decidable (trace.NestsWithin room) :=
  inferInstanceAs (Decidable (∀ site ∈ trace.visited, site.node.callDepth ≤ room))

lemma Trace.nestsWithin_cons {site : Site} {rest : Trace} {emitted : List Candidate}
    {enums : NameSet} {room : Nat} :
    Trace.NestsWithin { visited := site :: rest.visited, emitted, enums } room ↔
      site.node.callDepth ≤ room ∧ rest.NestsWithin room :=
  List.forall_mem_cons

/-- The walk comes to its end where all visited nodes have room, and else it has a fault. -/
lemma Reading.Walks.walkUpTo_eq (h : reading.Walks enums stack trace) (room : Nat) :
    reading.walkUpTo room enums stack =
      if trace.NestsWithin room then .ok trace else .error (.depth {}) := by
  induction h with
  | done enums =>
      rw [walkUpTo, walkBy, if_pos (by simp [Trace.NestsWithin])]
  | @step enums site stack step rest hvisit hwalk ih =>
      rw [walkUpTo] at ih ⊢
      rw [walkBy, visitUpTo_eq, hvisit]
      simp only [Trace.nestsWithin_cons]
      by_cases hsite : site.node.callDepth ≤ room
      · by_cases hrest : rest.NestsWithin room
        · simp only [hsite, hrest, Except.mapError, ih, and_self, if_true]
        · simp only [hsite, hrest, Except.mapError, ih, and_false, if_true, if_false]
      · simp only [hsite, false_and, if_false]

/-! ### Placed trees -/

section Placed

variable {ε : Type} {f : Nat → Except ε Nat}

namespace Node

lemma kind_of_mapOffsets {node other : Node} (h : node.mapOffsets f = .ok other) :
    other.kind = node.kind := by
  obtain ⟨_, _, _, -, -, -, rfl⟩ := mapOffsets_eq_ok_iff.mp h
  rfl

lemma isContent_of_mapOffsets {node other : Node} (h : node.mapOffsets f = .ok other) :
    other.isContent = node.isContent := by
  obtain ⟨_, _, _, -, -, -, rfl⟩ := mapOffsets_eq_ok_iff.mp h
  rfl

/-- A search among moved trees nests as deep and finds something just where it did before, if this
is so of the search below each of them. -/
lemma searchDepthAmong_of_mapOffsets {nodes moved : List Node}
    (h : List.Forall₂ (fun node other => node.mapOffsets f = .ok other ∧
      other.searchDepth = node.searchDepth ∧
        (recoveredAssignment? other).isSome = (recoveredAssignment? node).isSome) nodes moved) :
    searchDepthAmong moved = searchDepthAmong nodes ∧
      (recoveredAssignmentAmong? moved).isSome = (recoveredAssignmentAmong? nodes).isSome := by
  induction h with
  | nil => exact ⟨rfl, rfl⟩
  | cons hfirst _ ih =>
      obtain ⟨hmoved, hdepth, hfound⟩ := hfirst
      simp only [searchDepthAmong, recoveredAssignmentAmong?, isContent_of_mapOffsets hmoved,
        kind_of_mapOffsets hmoved, hdepth, hfound, ih.1, true_and]
      split_ifs
      · exact ih.2
      · rfl
      · rw [Option.isSome_or, Option.isSome_or, hfound, ih.2]
      · exact ih.2

/-- A search in a moved tree nests as deep, and it finds something just where it did before. -/
lemma searchDepth_of_mapOffsets {tree root : Node} (h : tree.mapOffsets f = .ok root) :
    root.searchDepth = tree.searchDepth ∧
      (recoveredAssignment? root).isSome = (recoveredAssignment? tree).isSome := by
  induction tree using Node.ind generalizing root with
  | _ node ih =>
      obtain ⟨_, _, children, -, -, hall, rfl⟩ := mapOffsets_eq_ok_iff.mp h
      obtain ⟨hdepth, hfound⟩ := searchDepthAmong_of_mapOffsets
        (hall.imp fun child moved hchild => ⟨hchild.2, ih child hchild.1 hchild.2⟩)
      rw [searchDepth_eq, searchDepth_eq, recoveredAssignment?_eq, recoveredAssignment?_eq]
      exact ⟨congrArg (· + 1) hdepth, hfound⟩

lemma map_kind_content_of_mapOffsets {tree root : Node} (h : tree.mapOffsets f = .ok root) :
    root.content.map Node.kind = tree.content.map Node.kind := by
  obtain ⟨_, _, children, -, -, hall, rfl⟩ := mapOffsets_eq_ok_iff.mp h
  have hmoved : List.Forall₂ (fun node other => node.mapOffsets f = .ok other) tree.children
      children := hall.imp fun child moved hchild => hchild.2
  have hcontent : List.Forall₂ (fun node other => node.mapOffsets f = .ok other)
      (tree.children.filter isContent) (children.filter isContent) :=
    List.rel_filter (fun node other hother => by simp [isContent_of_mapOffsets hother]) hmoved
  rw [eq_comm, ← List.forall₂_eq_eq_eq, List.forall₂_map_left_iff, List.forall₂_map_right_iff]
  exact hcontent.imp fun child moved hchild => (kind_of_mapOffsets hchild).symm

lemma isTextAlone_eq (node : Node) :
    node.isTextAlone = (node.content.map Node.kind == ["string"]) := by
  rw [isTextAlone]
  rcases node.content with _ | ⟨only, _ | ⟨second, rest⟩⟩ <;> simp

/-- The calls of a rule nest as deep in a moved tree. -/
lemma callDepth_of_mapOffsets {tree root : Node} (h : tree.mapOffsets f = .ok root) :
    root.callDepth = tree.callDepth := by
  rw [callDepth, callDepth, kind_of_mapOffsets h]
  cases Rule.ofKind? tree.kind with
  | none => rfl
  | some rule =>
      cases rule with
      | expressionStatement =>
          simp only [Rule.callDepth, isTextAlone_eq, map_kind_content_of_mapOffsets h,
            (searchDepth_of_mapOffsets h).1]
      | awaitExpression => exact (searchDepth_of_mapOffsets h).1
      | _ => rfl

end Node

end Placed

/-! ### Classifications -/

variable {vocabulary : Vocabulary} {parse : List Char → Node} {text : List Char}

/-- A classification has its result where the text is blank or all visited nodes have room, and else
it has a fault. -/
lemma classifyUpTo_eq {document : Document} {result : Classification}
    (hdocument : Document.ofTree (SourceText.ofText text) (parse text) = .ok document)
    (hwalk : document.walk vocabulary NameSet.empty = .ok trace)
    (hresult : classify vocabulary parse text = .ok result) (room : Nat) :
    classifyUpTo room vocabulary parse text =
      if isBlankText text = true ∨ trace.NestsWithin room then .ok result
      else .error (.depth {}) := by
  rw [classify] at hresult
  rw [classifyUpTo]
  cases hblank : isBlankText text with
  | true =>
      rw [hblank] at hresult
      cases hresult
      simp
  | false =>
      have hwalkUpTo : document.walkUpTo room vocabulary NameSet.empty =
          if trace.NestsWithin room then .ok trace else .error (.depth {}) :=
        (Reading.walk_eq_ok_iff.mp hwalk).walkUpTo_eq room
      have hsame : document.classificationOf trace = result := by
        rw [hblank, hdocument] at hresult
        obtain ⟨_, hsome, hsame⟩ := except_map_eq_ok.mp (show
          document.classificationOf <$> document.walk vocabulary NameSet.empty = .ok result from
            hresult)
        rw [hwalk] at hsome
        cases hsome
        exact hsame
      rw [hdocument]
      show document.classificationOf <$> document.walkUpTo room vocabulary NameSet.empty = _
      rw [hwalkUpTo]
      by_cases hnests : trace.NestsWithin room
      · rw [if_pos hnests, if_pos (Or.inr hnests), ← hsame]
        rfl
      · rw [if_neg hnests, if_neg (by simp [hnests])]
        rfl

/-- The nodes that a walk over a placed tree visits have room where all nodes of the tree do. -/
lemma nestsWithin_of_everywhere {tree : Node} {document : Document} {enums : NameSet} {room : Nat}
    (hdocument : Document.ofTree (SourceText.ofText text) tree = .ok document)
    (hwalk : document.walk vocabulary enums = .ok trace)
    (h : tree.Everywhere fun node => node.callDepth ≤ room) : trace.NestsWithin room := by
  obtain ⟨root, hplace, rfl⟩ := Document.ofTree_eq_ok_iff.mp hdocument
  have hroot : root.Everywhere fun node => node.callDepth ≤ room :=
    everywhere_of_mapOffsets hplace h fun node other hnode hother =>
      Node.callDepth_of_mapOffsets hother ▸ hnode
  have hsublist := (Reading.walk_eq_ok_iff.mp hwalk).visited_sublist
  rw [List.flatMap_singleton, ← Site.preorder_eq_subtree] at hsublist
  exact fun site hsite => hroot site (hsublist.subset hsite)

/-- A brace that nothing closes, after a character of two octets. -/
def strayText : List Char :=
  "é\x7b ".toList

/-- A tree that does not fit that text: an expression that ends before it starts, one with an empty
spread at the end of the text, an operator without operands, a statement that awaits an error, and a
comment without extent. -/
def strayTree : Node :=
  .construct "program" 0 4
    [.construct "jsx_expression" 4 2 [],
      .construct "jsx_expression" 2 4 [.construct "spread_element" 4 4 []],
      .construct "as_expression" 4 0 [],
      .construct "expression_statement" 2 3
        [.construct "await_expression" 4 0 [.construct "ERROR" 3 3 []]],
      .construct "comment" 2 2 []]

/-- So many awaits, one after the other, and a name. -/
def awaitsText (count : Nat) : List Char :=
  (List.replicate count "await ".toList).flatten ++ ['x']

/-- So many awaits in one another from an offset on, with a name in the innermost. All of them end
where the name ends. -/
def awaitsFrom (stop : Nat) : (start count : Nat) → Node
  | start, 0 => .construct "identifier" start stop []
  | start, count + 1 =>
    .construct "await_expression" start stop
      [.token "await" start (start + 5), awaitsFrom stop (start + 6) count]

/-- The statement that those awaits are. -/
def awaitsStatement (count : Nat) : Node :=
  .construct "expression_statement" 0 (6 * count + 1) [awaitsFrom (6 * count + 1) 0 count]

/-- The tree of the text of those awaits. -/
def awaitsTree (count : Nat) : Node :=
  .construct "program" 0 (6 * count + 1) [awaitsStatement count]

/-- The search goes through all awaits and finds nothing. -/
lemma searchDepthAmong_awaitsFrom (stop start count : Nat) :
    Node.searchDepthAmong [awaitsFrom stop start count] = count ∧
      recoveredAssignmentAmong? [awaitsFrom stop start count] = none := by
  induction count generalizing start with
  | zero => exact ⟨rfl, rfl⟩
  | succ count ih =>
      obtain ⟨hdepth, hnone⟩ := ih (start + 6)
      have hfound : recoveredAssignment? (awaitsFrom stop start (count + 1)) = none := hnone
      have hcalls : (awaitsFrom stop start (count + 1)).searchDepth = count + 1 :=
        congrArg (· + 1) hdepth
      have hcontent : (awaitsFrom stop start (count + 1)).isContent = true := rfl
      have hkind : (awaitsFrom stop start (count + 1)).kind = "await_expression" := rfl
      simp [Node.searchDepthAmong, recoveredAssignmentAmong?, hcontent, hkind, hfound, hcalls]

lemma callDepth_awaitsStatement (count : Nat) : (awaitsStatement count).callDepth = count + 2 := by
  have halone : (awaitsStatement count).isTextAlone = false := by
    cases count <;> rfl
  have hdepth := (searchDepthAmong_awaitsFrom (6 * count + 1) 0 count).1
  have hrule : Rule.ofKind? (awaitsStatement count).kind = some .expressionStatement := by
    show Rule.ofKind? "expression_statement" = some .expressionStatement
    decide +kernel
  simp only [Node.callDepth, hrule, Rule.callDepth, halone, Bool.false_eq_true, if_false,
    Node.searchDepth_eq]
  exact congrArg (· + 2) hdepth

lemma length_awaitsText (count : Nat) : (awaitsText count).length = 6 * count + 1 := by
  simp [awaitsText, Nat.mul_comm]

/-- All characters of the text have one octet. -/
lemma length_encodeUtf8_awaitsText (count : Nat) :
    (encodeUtf8 (awaitsText count)).length = 6 * count + 1 := by
  induction count with
  | zero => rfl
  | succ count ih =>
      have happend : awaitsText (count + 1) = "await ".toList ++ awaitsText count := by
        simp [awaitsText, List.replicate_succ]
      have hword : (encodeUtf8 "await ".toList).length = 6 := by decide +kernel
      rw [happend, encodeUtf8_append, List.length_append, hword, ih]
      omega

lemma liesWithin_awaitsFrom {text : List Char} {stop start count : Nat} (hstop : stop ≤ text.length)
    (h : start + 6 * count ≤ stop) : LiesWithin text (awaitsFrom stop start count) := by
  induction count generalizing start with
  | zero =>
      refine Node.everywhere_iff.mpr ⟨⟨h.trans hstop, hstop⟩, fun child hchild => ?_⟩
      exact absurd hchild List.not_mem_nil
  | succ count ih =>
      have hbelow : LiesWithin text (awaitsFrom stop (start + 6) count) := ih (by omega)
      have htoken : LiesWithin text (Node.token "await" start (start + 5)) := by
        refine Node.everywhere_iff.mpr ⟨⟨?_, ?_⟩, fun child hchild => ?_⟩
        · show start ≤ text.length
          omega
        · show start + 5 ≤ text.length
          omega
        · exact absurd hchild List.not_mem_nil
      refine Node.everywhere_iff.mpr ⟨⟨?_, hstop⟩, ?_⟩
      · show start ≤ text.length
        omega
      · exact List.forall_mem_cons.mpr ⟨htoken, List.forall_mem_singleton.mpr hbelow⟩

/-- In a text whose characters have one octet each, every offset is a boundary. -/
lemma onBoundaries_of_liesWithin {tree : Node}
    (hplain : (encodeUtf8 text).length = text.length) (h : LiesWithin text tree) :
    OnBoundaries text tree :=
  fun site hsite => ⟨⟨_, (h site hsite).1, octetOffsetOf_eq_of_length_eq (h site hsite).1 hplain⟩,
    _, (h site hsite).2, octetOffsetOf_eq_of_length_eq (h site hsite).2 hplain⟩

lemma onBoundaries_awaitsTree (count : Nat) :
    OnBoundaries (awaitsText count) (awaitsTree count) := by
  have hstop : 6 * count + 1 ≤ (awaitsText count).length := (length_awaitsText count).ge
  have hawaits : LiesWithin (awaitsText count) (awaitsFrom (6 * count + 1) 0 count) :=
    liesWithin_awaitsFrom hstop (by omega)
  have hstatement : LiesWithin (awaitsText count) (awaitsStatement count) :=
    Node.everywhere_iff.mpr ⟨⟨Nat.zero_le _, hstop⟩, List.forall_mem_singleton.mpr hawaits⟩
  have hplain := (length_encodeUtf8_awaitsText count).trans (length_awaitsText count).symm
  exact onBoundaries_of_liesWithin hplain (Node.everywhere_iff.mpr
    ⟨⟨Nat.zero_le _, hstop⟩, List.forall_mem_singleton.mpr hstatement⟩)

/-- **Awaits take as much room as there are of them**: where their search cannot nest as deep as
they do, their text has no classification, although it has one without a limit. -/
theorem classifyUpTo_awaits {room count : Nat} (vocabulary : Vocabulary) (h : room ≤ count + 1) :
    classifyUpTo room vocabulary (fun _ => awaitsTree count) (awaitsText count) =
      .error (.depth {}) := by
  obtain ⟨result, hresult, -, -, -, document, hdocument, -, hwalks⟩ :=
    classify_total vocabulary (fun _ => awaitsTree count) (awaitsText count)
      (onBoundaries_awaitsTree count)
  obtain ⟨trace, hwalk, -⟩ := hwalks NameSet.empty
  rw [classifyUpTo_eq hdocument hwalk hresult, if_neg]
  rintro (hblank | hnests)
  · have hname := List.all_eq_true.mp hblank 'x' (List.mem_append_right _ List.mem_cons_self)
    exact absurd hname (by decide)
  · obtain ⟨root, hplace, rfl⟩ := Document.ofTree_eq_ok_iff.mp hdocument
    obtain ⟨start, stop, children, -, -, hall, rfl⟩ := mapOffsets_eq_ok_iff.mp hplace
    obtain ⟨statement, rest, ⟨-, hstatement⟩, -, rfl⟩ := List.forall₂_cons_left_iff.mp hall
    have hcontent : statement.isContent = true :=
      (Node.isContent_of_mapOffsets hstatement).trans rfl
    obtain ⟨site, hsite, rfl⟩ := mem_visited_of_content hwalk
      (show Rule.ofKind? "program" = none by decide +kernel)
      (List.mem_filter.mpr ⟨List.mem_cons_self, hcontent⟩)
    have hdepth := hnests site hsite
    rw [Node.callDepth_of_mapOffsets hstatement, callDepth_awaitsStatement] at hdepth
    omega

end SourceLayers
