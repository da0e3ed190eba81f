/-
Texts with blanks in front of them, and everything moved along:

* `Node.shift`, `Site.shift`, `Span.shift` and their like: all offsets moved by a number of
  characters. Kinds, fields and places in the tree stay, so children are found as before
  (`content_shift`, `field?_shift`, `descend_shift`);
* `claim_shift`, `mark_shift`: the candidates on moved bounds are the moved candidates;
* `cut_shift`, `skipBlanksUpTo_shift`, `closingBrace_shift`: what is read at moved offsets is what
  was read before;
* `bracketRange?_shift`, `claim_mark_shift`: a search or a slice that reaches back from an offset
  ends at the blanks, as it did at the start of the text.
-/
import Mathlib.Tactic
import SourceLayers.Proofs.Brackets
import SourceLayers.Proofs.Emission
import SourceLayers.Proofs.Tree

namespace SourceLayers

variable {k : Nat}

/-! ### Nodes and sites -/

namespace Node

mutual
/-- The tree with all offsets moved by `k`. -/
def shift (k : Nat) : Node → Node
  | ⟨kind, start, stop, named, missing, field, children⟩ =>
    ⟨kind, start + k, stop + k, named, missing, field, shiftAll k children⟩

/-- The same for a list of trees. -/
def shiftAll (k : Nat) : List Node → List Node
  | [] => []
  | node :: rest => shift k node :: shiftAll k rest
end

lemma shiftAll_eq_map (nodes : List Node) : shiftAll k nodes = nodes.map (shift k) := by
  induction nodes with
  | nil => rfl
  | cons node rest ih => rw [shiftAll, ih, List.map_cons]

lemma shift_eq (node : Node) :
    node.shift k =
      { node with
        start := node.start + k, stop := node.stop + k
        children := node.children.map (shift k) } := by
  cases node
  rw [shift, shiftAll_eq_map]

@[simp] lemma kind_shift (node : Node) : (node.shift k).kind = node.kind := by
  rw [shift_eq]

@[simp] lemma start_shift (node : Node) : (node.shift k).start = node.start + k := by
  rw [shift_eq]

@[simp] lemma stop_shift (node : Node) : (node.shift k).stop = node.stop + k := by
  rw [shift_eq]

@[simp] lemma field_shift (node : Node) : (node.shift k).field = node.field := by
  rw [shift_eq]

@[simp] lemma children_shift (node : Node) :
    (node.shift k).children = node.children.map (shift k) := by
  rw [shift_eq]

@[simp] lemma isComment_shift (node : Node) : (node.shift k).isComment = node.isComment := by
  rw [isComment, isComment, kind_shift]

@[simp] lemma isContent_shift (node : Node) : (node.shift k).isContent = node.isContent := by
  rw [isContent, isContent, isComment_shift, shift_eq]

@[simp] lemma isToken_shift (kind : String) (node : Node) :
    isToken kind (node.shift k) = isToken kind node := by
  rw [isToken, isToken, kind_shift, shift_eq]

@[simp] lemma content_shift (node : Node) :
    (node.shift k).content = node.content.map (shift k) := by
  rw [content, content, children_shift, List.filter_map]
  simp only [Function.comp_def, isContent_shift]

@[simp] lemma fields_shift (node : Node) (name : String) :
    (node.shift k).fields name = (node.fields name).map (shift k) := by
  rw [fields, fields, children_shift, List.filter_map]
  simp only [Function.comp_def, field_shift]

@[simp] lemma field?_shift (node : Node) (name : String) :
    (node.shift k).field? name = (node.field? name).map (shift k) := by
  rw [field?, field?, children_shift, List.find?_map]
  simp only [Function.comp_def, field_shift]

@[simp] lemma token?_shift (node : Node) (kind : String) :
    (node.shift k).token? kind = (node.token? kind).map (shift k) := by
  rw [token?, token?, children_shift, List.find?_map]
  simp only [Function.comp_def, isToken_shift]

@[simp] lemma hasToken_shift (node : Node) (kind : String) :
    (node.shift k).hasToken kind = node.hasToken kind := by
  rw [hasToken, hasToken, token?_shift, Option.isSome_map]

@[simp] lemma ofKinds_shift (node : Node) (kinds : List String) :
    (node.shift k).ofKinds kinds = (node.ofKinds kinds).map (shift k) := by
  rw [ofKinds, ofKinds, children_shift, List.filter_map]
  simp only [Function.comp_def, kind_shift]

end Node

namespace Site

/-- A site of the moved tree. -/
def shift (k : Nat) (site : Site) : Site :=
  ⟨site.node.shift k, site.parent.map (Node.shift k), site.trail⟩

@[simp] lemma node_shift (site : Site) : (site.shift k).node = site.node.shift k := rfl

@[simp] lemma parent_shift (site : Site) :
    (site.shift k).parent = site.parent.map (Node.shift k) := rfl

@[simp] lemma content_shift (site : Site) :
    (site.shift k).content = site.content.map (shift k) := by
  have hchildren : (site.shift k).children = site.children.map (shift k) := by
    apply List.ext_getElem?
    intro i
    simp [children, shift, Function.comp_def]
  rw [content, content, hchildren, List.filter_map]
  simp only [Function.comp_def, node_shift, Node.isContent_shift]

@[simp] lemma isNameOfParent_shift (site : Site) :
    (site.shift k).isNameOfParent = site.isNameOfParent := by
  obtain ⟨node, parent, trail⟩ := site
  cases parent with
  | none => rfl
  | some parent =>
      cases trail with
      | nil => rfl
      | cons slot trail =>
          simp only [isNameOfParent, shift, Option.map_some, Node.children_shift,
            List.findIdx?_map, Function.comp_def, Node.field_shift]

/-- A walk over a moved tree goes on to the moved sites. -/
lemma descend_shift (site : Site) (fates : List Fate) :
    (site.shift k).descend fates = (site.descend fates).map (shift k) := by
  have hsites : ∀ (fate : Fate) (child : Site),
      fate.sites (child.shift k) = (fate.sites child).map (shift k) := by
    intro fate child
    cases fate with
    | skip => rfl
    | enter => rfl
    | unwrap => exact content_shift child
  rw [descend, descend, content_shift, List.zip_map_left, List.flatMap_map, List.map_flatMap]
  simp only [Prod.map_fst, Prod.map_snd, id_eq, hsites]

end Site

/-! ### Candidates and regions -/

/-- A span moved by `k`. -/
def Span.shift (k : Nat) (span : Span) : Span :=
  ⟨span.start + k, span.stop + k, Nat.add_lt_add_right span.start_lt_stop k⟩

/-- A candidate moved by `k`. -/
def Candidate.shift (k : Nat) (c : Candidate) : Candidate :=
  { c with toSpan := c.toSpan.shift k }

/-- A region moved by `k`. -/
def Region.shift (k : Nat) (region : Region) : Region :=
  { region with toSpan := region.toSpan.shift k }

/-- The claim on moved bounds is the moved claim, unless it began before the text. -/
lemma claim_shift {start stop : Int} (hstart : 0 ≤ start) (layer : Layer) :
    claim (start + k) (stop + k) layer = (claim start stop layer).map (Candidate.shift k) := by
  rw [claim, claim, Candidate.make?, Candidate.make?]
  by_cases h : start < stop
  · rw [dif_pos ⟨by omega, by omega⟩, dif_pos ⟨hstart, h⟩]
    simp only [Option.toList_some, List.map_cons, List.map_nil, Candidate.shift, Span.shift]
    have hfirst : (start + k).toNat = start.toNat + k := by omega
    have hlast : (stop + k).toNat = stop.toNat + k := by omega
    simp only [hfirst, hlast]
  · rw [dif_neg (by omega), dif_neg (by omega)]
    rfl

/-- The claim from an offset to another one, or some way past it. -/
lemma claim_past_shift (start stop : Nat) (past : Int) (layer : Layer) :
    claim ((start + k : Nat) : Int) ((stop + k : Nat) + past : Int) layer =
      (claim start (stop + past) layer).map (Candidate.shift k) := by
  rw [← claim_shift (Int.natCast_nonneg start), Nat.cast_add, Nat.cast_add, Int.add_right_comm]

lemma claim_natCast_shift (start stop : Nat) (layer : Layer) :
    claim ((start + k : Nat) : Int) ((stop + k : Nat) : Int) layer =
      (claim start stop layer).map (Candidate.shift k) := by
  simpa using claim_past_shift (k := k) start stop 0 layer

/-- The claim on the last characters before an offset, if there are as many. -/
lemma claim_back_shift {stop : Nat} {back : Int} (hback : back ≤ stop) (layer : Layer) :
    claim ((stop + k : Nat) - back : Int) ((stop + k : Nat) : Int) layer =
      (claim (stop - back) stop layer).map (Candidate.shift k) := by
  rw [← claim_shift (by omega), Nat.cast_add, sub_add_eq_add_sub]

@[simp] lemma mark_shift (node : Node) (layer : Layer) :
    mark (node.shift k) layer = (mark node layer).map (Candidate.shift k) := by
  rw [mark, mark, Node.start_shift, Node.stop_shift, claim_natCast_shift]

/-! ### Reading at moved offsets -/

section Text

variable (blanks text : List Char)

@[simp] lemma cut_shift (start stop : Nat) :
    cut (blanks ++ text) (start + blanks.length) (stop + blanks.length) = cut text start stop := by
  rw [cut, cut, Nat.add_comm start, List.drop_length_add_append, Nat.add_comm,
    Nat.add_sub_add_left]

lemma getElem?_shift (i : Nat) : (blanks ++ text)[i + blanks.length]? = text[i]? := by
  rw [List.getElem?_append_right (Nat.le_add_left _ _), Nat.add_sub_cancel]

variable {blanks text}

lemma skipBlanksUpTo_shift {first stop next : Nat}
    (h : skipBlanksUpTo text first stop = .ok next) :
    skipBlanksUpTo (blanks ++ text) (first + blanks.length) (stop + blanks.length) =
      .ok (next + blanks.length) := by
  have hdrop : (blanks ++ text).drop (first + blanks.length) = text.drop first := by
    rw [Nat.add_comm, List.drop_length_add_append]
  unfold skipBlanksUpTo at h ⊢
  simp only [hdrop, List.length_append] at h ⊢
  split at h
  · rw [if_pos (by omega)]
    cases h
    rfl
  · rw [if_neg (by omega)]
    split at h
    · rw [if_pos (by omega)]
      cases h
      rfl
    · rw [if_neg (by omega)]
      split at h
      · rw [if_pos (by omega)]
        cases h
        exact congrArg Except.ok (by omega)
      · cases h

/-- The last character of a stretch that begins in the text is the same after the blanks. -/
lemma closingBrace_shift {start stop : Nat} {brace : List Candidate}
    (h : closingBrace text start stop = .ok brace) :
    closingBrace (blanks ++ text) (start + blanks.length) (stop + blanks.length) =
      .ok (brace.map (Candidate.shift blanks.length)) := by
  rw [closingBrace] at h ⊢
  split at h
  · rename_i hlt
    have hread : (blanks ++ text)[stop + blanks.length - 1]? = text[stop - 1]? := by
      rw [← getElem?_shift blanks text, Nat.sub_add_comm (by omega)]
    simp only [bind, except_bind_eq_ok, pure, Except.pure, Except.ok.injEq] at h
    obtain ⟨c, hc, rfl⟩ := h
    have hc' : charBefore (blanks ++ text) (stop + blanks.length) = .ok c := by
      rw [charBefore] at hc ⊢
      rw [hread]
      cases hget : text[stop - 1]? with
      | none => rw [hget] at hc; cases hc
      | some d => rw [hget] at hc; exact hc
    rw [if_pos (by omega), hc']
    simp only [bind, Except.bind, pure, Except.pure]
    split
    · rw [claim_back_shift (by omega)]
    · rfl
  · rw [if_neg (by omega)]
    cases h
    rfl

/-! ### Reaching back into the blanks -/

variable (hblank : isBlankText blanks = true)
include hblank

lemma isBlank_of_mem {c : Char} (hc : c ∈ blanks) : isBlank c = true :=
  List.all_eq_true.mp hblank c hc

/-- The search for an opening bracket finds none in the blanks. -/
lemma openingBracket?_shift (entry : Nat) :
    openingBracket? (blanks ++ text) ((entry + blanks.length : Nat) - 1 : Int) =
      (openingBracket? text (entry - 1 : Int)).map (· + blanks.length) := by
  have hnone : blanks.reverse.findIdx? (· == '<') = none := by
    rw [List.findIdx?_eq_none_iff]
    intro c hc
    have hcblank := isBlank_of_mem hblank (List.mem_reverse.mp hc)
    by_contra hbracket
    have hc' : c = '<' := by simpa using hbracket
    rw [hc'] at hcblank
    exact absurd hcblank (by decide)
  have htake : (blanks ++ text).take (entry + blanks.length) = blanks ++ text.take entry := by
    rw [Nat.add_comm, List.take_length_add_append]
  rw [openingBracket?_natCast, openingBracket?_natCast, htake, List.reverse_append,
    List.findIdx?_append, hnone, Option.map_none, Option.or_none, Option.map_map]
  cases hfind : (text.take entry).reverse.findIdx? (· == '<') with
  | none => rfl
  | some back =>
      obtain ⟨hback, -⟩ := List.findIdx?_eq_some_iff_getElem.mp hfind
      rw [List.length_reverse] at hback
      simp only [Option.map_some, Function.comp_apply, List.length_append, Option.some.injEq]
      omega

/-- The brackets around a list are the moved ones. -/
lemma bracketRange?_shift (entry : Nat) :
    bracketRange? (blanks ++ text) ((entry + blanks.length : Nat) : Int) =
      (bracketRange? text entry).map fun range =>
        (range.1 + blanks.length, range.2 + blanks.length) := by
  rw [bracketRange?, bracketRange?, openingBracket?_shift hblank]
  cases openingBracket? text (entry - 1 : Int) with
  | none => rfl
  | some opening =>
      have hdrop : (blanks ++ text).drop (opening + blanks.length + 1) =
          text.drop (opening + 1) := by
        rw [Nat.add_right_comm, Nat.add_comm, List.drop_length_add_append]
      simp only [Option.map_some, bind, Option.bind_some, hdrop]
      cases balanceIndex? 1 (text.drop (opening + 1)) with
      | none => rfl
      | some close =>
          simp only [Option.bind_some, pure, Option.map_some, Option.some.injEq, Prod.mk.injEq,
            true_and]
          omega

/-- A mark without blanks that ends at an offset stands there in the moved text exactly if it did
before, since it cannot begin among the blanks. -/
lemma cut_back_shift {mark : List Char} (hne : mark ≠ [])
    (hmark : mark.any isBlank = false) (stop : Nat) :
    cut (blanks ++ text) (stop + blanks.length - mark.length) (stop + blanks.length) = mark ↔
      mark.length ≤ stop ∧ cut text (stop - mark.length) stop = mark := by
  by_cases hle : mark.length ≤ stop
  · rw [Nat.sub_add_comm hle, cut_shift]
    simp [hle]
  · refine iff_of_false (fun hcut => ?_) fun h => hle h.1
    obtain ⟨c, rest, rfl⟩ := List.exists_cons_of_ne_nil hne
    have hlength : (c :: rest).length ≤ stop + blanks.length := by
      have htake : (cut (blanks ++ text) (stop + blanks.length - (c :: rest).length)
          (stop + blanks.length)).length ≤ _ := List.length_take_le _ _
      rw [hcut] at htake
      omega
    -- the first character of the mark would be a blank
    have hlt : stop + blanks.length - (c :: rest).length < blanks.length := by omega
    have hfirst : (blanks ++ text)[stop + blanks.length - (c :: rest).length]? = some c := by
      have hhead := congrArg List.head? hcut
      rw [cut, List.head?_take, if_neg (by omega), List.head?_drop] at hhead
      exact hhead
    rw [List.getElem?_append_left hlt] at hfirst
    have hcblank := isBlank_of_mem hblank (List.mem_of_getElem? hfirst)
    exact absurd hcblank (List.any_eq_false.mp hmark c List.mem_cons_self)

/-- The claim on such a mark, if it stands there. -/
lemma claim_mark_shift {mark : List Char} (hne : mark ≠ []) (hmark : mark.any isBlank = false)
    (stop : Nat) (layer : Layer) :
    (if cut (blanks ++ text) (stop + blanks.length - mark.length) (stop + blanks.length) == mark
      then claim ((stop + blanks.length : Nat) - mark.length : Int)
        ((stop + blanks.length : Nat) : Int) layer
      else []) =
      (if cut text (stop - mark.length) stop == mark then
        claim (stop - mark.length : Int) stop layer
      else []).map (Candidate.shift blanks.length) := by
  simp only [beq_iff_eq]
  by_cases hle : mark.length ≤ stop
  · simp only [cut_back_shift hblank hne hmark, hle, true_and,
      claim_back_shift (Int.ofNat_le.mpr hle),
      apply_ite (List.map (Candidate.shift blanks.length)), List.map_nil]
  · -- a claim that begins before the text is dropped
    have hnone : claim (stop - mark.length : Int) stop layer = [] := by
      rw [claim, Candidate.make?, dif_neg (by omega)]
      rfl
    rw [if_neg fun h => hle ((cut_back_shift hblank hne hmark _).mp h).1, hnone, ite_self,
      List.map_nil]

end Text

end SourceLayers
