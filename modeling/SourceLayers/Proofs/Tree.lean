/-
Properties that hold all over a tree:

* `Node.construct`, `Node.token`: nodes for trees that are written out;
* `Node.ind`: a property holds of every tree once it is inherited from the children;
* `Node.Everywhere`: a property holds of every node of a tree. It does so exactly if it holds of
  the root and all over the children (`everywhere_iff`);
* `Node.Everywhere.of_mem_descend`: it then holds all over whatever a walk goes on to;
* `Site.descend_enterAll`: a step that visits all content children goes on to the content.
-/
import Mathlib.Tactic
import SourceLayers.Rule.Basic

namespace SourceLayers

namespace Node

/-- A named node that fills no field. -/
def construct (kind : String) (start stop : Nat) (children : List Node) : Node :=
  ⟨kind, start, stop, true, false, none, children⟩

/-- A bare token. -/
def token (kind : String) (start stop : Nat) : Node :=
  ⟨kind, start, stop, false, false, none, []⟩

/-- A child is smaller than its parent. -/
lemma size_lt_of_mem_children {node child : Node} (h : child ∈ node.children) :
    child.size < node.size := by
  have key : ∀ nodes : List Node, child ∈ nodes → child.size ≤ sizeAll nodes := by
    intro nodes
    induction nodes with
    | nil => simp
    | cons first rest ih =>
        intro hmem
        rw [sizeAll_cons]
        rcases List.mem_cons.mp hmem with rfl | hrest
        · omega
        · have := ih hrest
          omega
  have hle := key node.children h
  rw [size_eq node]
  omega

/-- The induction principle of trees: a property holds of every tree once it is inherited from the
children. -/
@[elab_as_elim]
theorem ind {P : Node → Prop} (h : ∀ node : Node, (∀ child ∈ node.children, P child) → P node)
    (node : Node) : P node :=
  h node fun child _ => ind h child
termination_by node.size
decreasing_by exact size_lt_of_mem_children (by assumption)

/-! ### Everywhere in a tree -/

/-- A property holds of every node of a tree. -/
def Everywhere (P : Node → Prop) (root : Node) : Prop :=
  ∀ site ∈ Site.preorder root, P site.node

instance (P : Node → Prop) [DecidablePred P] (root : Node) : Decidable (root.Everywhere P) :=
  inferInstanceAs (Decidable (∀ site ∈ Site.preorder root, P site.node))

variable {P : Node → Prop}

lemma preorderAt_eq (parent : Option Node) (trail : List Nat) (node : Node) :
    Site.preorderAt parent trail node =
      ⟨node, parent, trail⟩ :: Site.preorderAll node trail 0 node.children := by
  cases node
  rfl

/-- What holds of the sites of some children holds all over the children, provided that their own
places do not matter. -/
lemma forall_mem_preorderAll_iff {nodes : List Node}
    (h : ∀ child ∈ nodes, ∀ parent trail,
      (∀ site ∈ Site.preorderAt parent trail child, P site.node) ↔ child.Everywhere P)
    (parent : Node) (trail : List Nat) (i : Nat) :
    (∀ site ∈ Site.preorderAll parent trail i nodes, P site.node) ↔
      ∀ child ∈ nodes, child.Everywhere P := by
  induction nodes generalizing i with
  | nil => simp [Site.preorderAll]
  | cons first rest ih =>
      have hrest := ih (fun child hchild => h child (List.mem_cons_of_mem first hchild)) (i + 1)
      rw [Site.preorderAll, List.forall_mem_append, h first List.mem_cons_self, hrest,
        List.forall_mem_cons]

/-- Where a tree stands does not matter for what holds of its nodes. -/
lemma forall_mem_preorderAt_iff (parent : Option Node) (trail : List Nat) (node : Node) :
    (∀ site ∈ Site.preorderAt parent trail node, P site.node) ↔ node.Everywhere P := by
  induction node using ind generalizing parent trail with
  | _ node ih =>
      have hall := forall_mem_preorderAll_iff fun child hchild parent trail =>
        ih child hchild parent trail
      rw [Everywhere, Site.preorder, preorderAt_eq, preorderAt_eq, List.forall_mem_cons,
        List.forall_mem_cons, hall, hall]

/-- A property holds all over a tree exactly if it holds of the root and all over the children. -/
lemma everywhere_iff {node : Node} :
    node.Everywhere P ↔ P node ∧ ∀ child ∈ node.children, child.Everywhere P := by
  rw [Everywhere, Site.preorder, preorderAt_eq, List.forall_mem_cons,
    forall_mem_preorderAll_iff fun child _ parent trail =>
      forall_mem_preorderAt_iff parent trail child]

lemma Everywhere.self {node : Node} (h : node.Everywhere P) : P node :=
  (everywhere_iff.mp h).1

lemma Everywhere.child {node child : Node} (h : node.Everywhere P)
    (hchild : child ∈ node.children) : child.Everywhere P :=
  (everywhere_iff.mp h).2 child hchild

end Node

/-! ### Sites and what a walk goes on to -/

namespace Site

/-- The node of a content site is a child of the site. -/
lemma node_mem_children_of_mem_content {site child : Site} (h : child ∈ site.content) :
    child.node ∈ site.node.children := by
  have hmap : child.node ∈ site.content.map Site.node := List.mem_map_of_mem h
  rw [map_node_content] at hmap
  exact (List.mem_filter.mp hmap).1

/-- The parent of a content site is the node above it. -/
lemma parent_of_mem_content {site child : Site} (h : child ∈ site.content) :
    child.parent = some site.node := by
  obtain ⟨i, hi, rfl⟩ := List.mem_mapIdx.mp (List.mem_filter.mp h).1
  rfl

/-- Every content child of a node has a content site. -/
lemma exists_mem_content {site : Site} {node : Node} (h : node ∈ site.node.content) :
    ∃ child ∈ site.content, child.node = node := by
  rw [← map_node_content] at h
  exact List.mem_map.mp h

/-- A step that visits all content children goes on to the content. -/
lemma descend_enterAll (site : Site) : site.descend (Step.enterAll site.node) = site.content := by
  have key : ∀ (sites : List Site) (nodes : List Node), sites.map Site.node = nodes →
      ((sites.zip (nodes.map fun _ => Fate.enter)).flatMap fun pair =>
        pair.2.sites pair.1) = sites := by
    intro sites
    induction sites with
    | nil => intro nodes _; rfl
    | cons first rest ih =>
        rintro nodes rfl
        rw [List.map_cons, List.map_cons, List.zip_cons_cons, List.flatMap_cons, ih _ rfl]
        rfl
  exact key site.content site.node.content (map_node_content site)

end Site

/-- What holds all over a tree holds all over whatever a walk goes on to from its root. -/
lemma Node.Everywhere.of_mem_descend {P : Node → Prop} {site next : Site} {fates : List Fate}
    (h : site.node.Everywhere P) (hnext : next ∈ site.descend fates) : next.node.Everywhere P := by
  obtain ⟨⟨child, fate⟩, hmem, hsites⟩ := List.mem_flatMap.mp hnext
  have hchild : child.node.Everywhere P :=
    h.child (Site.node_mem_children_of_mem_content (List.of_mem_zip hmem).1)
  cases fate with
  | skip => exact absurd hsites (by simp [Fate.sites])
  | enter =>
      rw [List.mem_singleton.mp hsites]
      exact hchild
  | unwrap => exact hchild.child (Site.node_mem_children_of_mem_content hsites)

end SourceLayers
