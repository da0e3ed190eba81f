/-
Nodes in their place:

* `Site`: a node with its parent and the trail of child positions that leads to it from the root;
* `Site.children`, `Site.content`, `Site.parts`, `Site.token?`, `Site.ofKinds`: the children of a
  site, as sites;
* `Site.preorder`: all sites of a tree, each before those below it;
* `Fate`, `Site.descend`: what a walk does with each content child of a site.

Two sites of one tree are the same exactly when their trails are. Main statement:
`sizeSites_descend_lt`, that whatever a walk goes on to is smaller than where it stands.
-/
import SourceLayers.Tree.Node

namespace SourceLayers

/-- A node of a tree in its place. -/
structure Site where
  /-- The node itself. -/
  node : Node
  /-- The node's parent; the root has none. -/
  parent : Option Node
  /-- The positions of the node in its parent, of the parent in its parent, and so on. -/
  trail : List Nat

namespace Site

/-- The root of a tree. -/
def root (node : Node) : Site :=
  ⟨node, none, []⟩

/-- The children of a site. -/
def children (site : Site) : List Site :=
  site.node.children.mapIdx fun i child => ⟨child, some site.node, i :: site.trail⟩

/-- The named children without comments. -/
def content (site : Site) : List Site :=
  site.children.filter fun child => child.node.isContent

/-- All children without comments. -/
def parts (site : Site) : List Site :=
  site.children.filter fun child => !child.node.isComment

/-- The first child that is a bare token of the given kind. -/
def token? (site : Site) (kind : String) : Option Site :=
  site.children.find? fun child => child.node.isToken kind

/-- The children of the given kinds. -/
def ofKinds (site : Site) (kinds : List String) : List Site :=
  site.children.filter fun child => kinds.contains child.node.kind

/-- Whether the site's node is the first child of its parent in the field `name`. -/
def isNameOfParent (site : Site) : Bool :=
  match site.parent, site.trail with
  | some parent, slot :: _ =>
    parent.children.findIdx? (fun child => child.field == some "name") == some slot
  | _, _ => false

/-! ### Pre-order -/

mutual
/-- The sites of a tree whose root has the given place, in pre-order. -/
def preorderAt (parent : Option Node) (trail : List Nat) : Node → List Site
  | ⟨kind, start, stop, named, missing, field, children⟩ =>
    let node : Node := ⟨kind, start, stop, named, missing, field, children⟩
    ⟨node, parent, trail⟩ :: preorderAll node trail 0 children

/-- The sites of the trees of some children, the first of which has position `i`. -/
def preorderAll (parent : Node) (trail : List Nat) (i : Nat) : List Node → List Site
  | [] => []
  | child :: rest =>
    preorderAt (some parent) (i :: trail) child ++ preorderAll parent trail (i + 1) rest
end

/-- All sites of a tree, each before those below it. -/
def preorder (root : Node) : List Site :=
  preorderAt none [] root

/-! ### Descent -/

/-- The nodes under a list of sites, counted. -/
def sizeSites (sites : List Site) : Nat :=
  Node.sizeAll (sites.map Site.node)

/-- A list of sites in two parts. -/
theorem sizeSites_append (xs ys : List Site) :
    sizeSites (xs ++ ys) = sizeSites xs + sizeSites ys := by
  simp [sizeSites, Node.sizeAll_append]

/-- The nodes of the content sites are the content of the node. -/
theorem map_node_content (site : Site) : site.content.map Site.node = site.node.content := by
  unfold content children Node.content
  generalize site.node.children = nodes
  have key : ∀ (trail : List Nat) (parent : Option Node) (nodes : List Node) (k : Nat),
      ((nodes.mapIdx fun i child => (⟨child, parent, (i + k) :: trail⟩ : Site)).filter
        fun child => child.node.isContent).map Site.node = nodes.filter Node.isContent := by
    intro trail parent nodes
    induction nodes with
    | nil => intro k; rfl
    | cons node rest ih =>
      intro k
      have hrest := ih (k + 1)
      simp only [List.mapIdx_cons, List.filter_cons]
      have harrange : (fun (i : Nat) (child : Node) =>
          (⟨child, parent, (i + 1 + k) :: trail⟩ : Site)) =
          fun (i : Nat) (child : Node) => ⟨child, parent, (i + (k + 1)) :: trail⟩ := by
        funext i child
        congr 2
        omega
      rw [harrange]
      split <;> simp_all
  exact key site.trail (some site.node) nodes 0

/-- The content of a site is smaller than the site. -/
theorem sizeSites_content_lt (site : Site) : sizeSites site.content < site.node.size := by
  rw [sizeSites, map_node_content]
  exact Node.sizeAll_content_lt site.node

end Site

/-- What a walk does with a child: pass it over, visit it, or go straight to its own content. -/
inductive Fate where
  | skip
  | enter
  | unwrap
  deriving DecidableEq, Repr

namespace Fate

/-- The sites that a walk goes on to for a child of the given fate. -/
def sites : Fate → Site → List Site
  | .skip, _ => []
  | .enter, child => [child]
  | .unwrap, child => child.content

/-- No fate adds nodes. -/
theorem sizeSites_sites_le (fate : Fate) (child : Site) :
    Site.sizeSites (fate.sites child) ≤ child.node.size := by
  cases fate with
  | skip => exact Nat.zero_le _
  | enter => simp [sites, Site.sizeSites]
  | unwrap => exact Nat.le_of_lt (Site.sizeSites_content_lt child)

end Fate

namespace Site

/-- The sites that a walk goes on to, in order, given the fates of the content children. Children
beyond the end of the list are passed over. -/
def descend (site : Site) (fates : List Fate) : List Site :=
  (site.content.zip fates).flatMap fun (child, fate) => fate.sites child

/-- Fates select from the children they are given to. -/
theorem sizeSites_zip_le (sites : List Site) (fates : List Fate) :
    sizeSites ((sites.zip fates).flatMap fun (child, fate) => fate.sites child) ≤
      sizeSites sites := by
  induction sites generalizing fates with
  | nil => simp [sizeSites]
  | cons child rest ih =>
    cases fates with
    | nil => simp [sizeSites]
    | cons fate fates =>
      have hrest := ih fates
      have hchild := fate.sizeSites_sites_le child
      rw [List.zip_cons_cons, List.flatMap_cons, sizeSites_append]
      simp only [sizeSites, List.map_cons, Node.sizeAll_cons] at hrest hchild ⊢
      omega

/-- What a walk goes on to is smaller than where it stands. -/
theorem sizeSites_descend_lt (site : Site) (fates : List Fate) :
    sizeSites (site.descend fates) < site.node.size :=
  Nat.lt_of_le_of_lt (sizeSites_zip_le site.content fates) (sizeSites_content_lt site)

end Site

end SourceLayers
