/-
Sites and what lies below them:

* `Site.subtree`, `Site.below`: the sites of the tree under a site, with it and without it, in
  pre-order;
* `exists_trail_of_mem_subtree`: the trail of a site is the end of every trail below it;
* `nodup_trails`: no trail leads to two sites of a tree;
* `Site.Separate`: two sites have no site below both;
* `flatMap_subtree_descend_sublist`: a walk goes on to parts of the tree below, from first to last
  and without going back;
* `nodup_trails_descend`: a stack without a trail twice under it stays so.

Main statement: `pairwise_separate_descend`, that whatever a walk goes on to from a site lies in
separate places below it.
-/
import Mathlib.Tactic
import SourceLayers.Proofs.Tree

namespace SourceLayers

namespace Site

/-! ### The tree under a site -/

/-- The sites of the tree under a site, in pre-order. -/
def subtree (site : Site) : List Site :=
  preorderAt site.parent site.trail site.node

/-- The same without the site itself. -/
def below (site : Site) : List Site :=
  site.children.flatMap subtree

/-- Whether no site lies in the trees under both of two sites. -/
def Separate (a b : Site) : Prop :=
  ∀ x ∈ a.subtree, ∀ y ∈ b.subtree, x.trail ≠ y.trail

/-- The sites of some children, one child after the other. -/
lemma preorderAll_eq_flatMap (parent : Node) (trail : List Nat) (i : Nat) (nodes : List Node) :
    preorderAll parent trail i nodes =
      (nodes.mapIdx fun j child =>
        (⟨child, some parent, (i + j) :: trail⟩ : Site)).flatMap subtree := by
  induction nodes generalizing i with
  | nil => rfl
  | cons first rest ih =>
      have harrange : ∀ j, i + 1 + j = i + (j + 1) := by omega
      rw [preorderAll, ih (i + 1), List.mapIdx_cons, List.flatMap_cons]
      simp only [harrange]
      rfl

/-- The tree under a site is the site and what lies below it. -/
lemma subtree_eq (site : Site) : site.subtree = site :: site.below := by
  rw [subtree, Node.preorderAt_eq, preorderAll_eq_flatMap]
  simp only [Nat.zero_add]
  rfl

lemma mem_subtree_self (site : Site) : site ∈ site.subtree := by
  rw [subtree_eq]
  exact List.mem_cons_self

lemma preorder_eq_subtree (root : Node) : preorder root = (Site.root root).subtree := rfl

/-- What lies under a site that lies under another one lies under that one too. -/
lemma mem_subtree_trans {a b c : Site} (hb : b ∈ a.subtree) (hc : c ∈ b.subtree) :
    c ∈ a.subtree := by
  obtain ⟨node, parent, trail⟩ := a
  induction node using Node.ind generalizing parent trail with
  | _ node ih =>
      rw [subtree_eq] at hb
      rcases List.mem_cons.mp hb with rfl | hbelow
      · exact hc
      · obtain ⟨child, hchild, hmem⟩ := List.mem_flatMap.mp hbelow
        obtain ⟨i, hi, rfl⟩ := List.mem_mapIdx.mp hchild
        have hunder := ih _ (List.getElem_mem hi) _ _ hmem
        rw [subtree_eq]
        exact List.mem_cons_of_mem _ (List.mem_flatMap.mpr ⟨_, hchild, hunder⟩)

/-! ### Trails -/

/-- A child adds its position to the trail. -/
lemma exists_of_mem_children {site child : Site} (h : child ∈ site.children) :
    ∃ i, child.trail = i :: site.trail ∧ child.node ∈ site.node.children := by
  obtain ⟨i, hi, rfl⟩ := List.mem_mapIdx.mp h
  exact ⟨i, rfl, List.getElem_mem hi⟩

/-- The trail of a site is the end of every trail below it. -/
lemma exists_trail_of_mem_subtree {site x : Site} (h : x ∈ site.subtree) :
    ∃ path, x.trail = path ++ site.trail := by
  obtain ⟨node, parent, trail⟩ := site
  induction node using Node.ind generalizing parent trail with
  | _ node ih =>
      rw [subtree_eq] at h
      rcases List.mem_cons.mp h with rfl | hbelow
      · exact ⟨[], rfl⟩
      · obtain ⟨child, hchild, hx⟩ := List.mem_flatMap.mp hbelow
        obtain ⟨i, htrail, hnode⟩ := exists_of_mem_children hchild
        obtain ⟨path, hpath⟩ := ih child.node hnode child.parent child.trail hx
        refine ⟨path ++ [i], ?_⟩
        rw [hpath, htrail]
        simp

/-- A trail below a site is longer than that of the site. -/
lemma trail_ne_of_mem_below {site x : Site} (h : x ∈ site.below) : x.trail ≠ site.trail := by
  obtain ⟨child, hchild, hx⟩ := List.mem_flatMap.mp h
  obtain ⟨i, htrail, -⟩ := exists_of_mem_children hchild
  obtain ⟨path, hpath⟩ := exists_trail_of_mem_subtree hx
  intro heq
  have hlength : x.trail.length = path.length + (site.trail.length + 1) := by
    rw [hpath, htrail, List.length_append, List.length_cons]
  rw [heq] at hlength
  omega

/-- The children of a site are separate. -/
lemma pairwise_separate_children (site : Site) : site.children.Pairwise Separate := by
  rw [children, List.pairwise_iff_getElem]
  intro i j hi hj hlt x hx y hy heq
  simp only [List.getElem_mapIdx] at hx hy
  obtain ⟨path, hpath⟩ := exists_trail_of_mem_subtree hx
  obtain ⟨other, hother⟩ := exists_trail_of_mem_subtree hy
  -- both trails end in that of the site, and before it stand the positions of the two children
  have hends : path ++ i :: site.trail = other ++ j :: site.trail := by
    rw [← hpath, ← hother, heq]
  have hposition := (List.append_inj' hends rfl).2
  have hsame : i = j := (List.cons.inj hposition).1
  omega

/-- Separate sites without duplicates below them have none together. -/
lemma nodup_trails_flatMap {sites : List Site} (hseparate : sites.Pairwise Separate)
    (h : ∀ site ∈ sites, (site.subtree.map trail).Nodup) :
    ((sites.flatMap subtree).map trail).Nodup := by
  rw [List.map_flatMap, List.nodup_flatMap]
  refine ⟨h, hseparate.imp fun {a b} hab => ?_⟩
  rw [Function.onFun, List.disjoint_left]
  intro t ha hb
  obtain ⟨x, hx, rfl⟩ := List.mem_map.mp ha
  obtain ⟨y, hy, heq⟩ := List.mem_map.mp hb
  exact hab x hx y hy heq.symm

/-- No trail leads to two sites under a site. -/
lemma nodup_trails (site : Site) : (site.subtree.map trail).Nodup := by
  obtain ⟨node, parent, trail⟩ := site
  induction node using Node.ind generalizing parent trail with
  | _ node ih =>
      rw [subtree_eq, List.map_cons, List.nodup_cons]
      constructor
      · intro hmem
        obtain ⟨x, hx, heq⟩ := List.mem_map.mp hmem
        exact trail_ne_of_mem_below hx heq
      · refine nodup_trails_flatMap (pairwise_separate_children _) fun child hchild => ?_
        obtain ⟨i, -, hnode⟩ := exists_of_mem_children hchild
        exact ih child.node hnode child.parent child.trail

/-! ### Descents -/

lemma content_sublist_children (site : Site) : site.content.Sublist site.children :=
  List.filter_sublist

/-- What a walk goes on to for a child lies in the tree under the child. -/
lemma flatMap_subtree_sites_sublist (fate : Fate) (child : Site) :
    ((fate.sites child).flatMap subtree).Sublist child.subtree := by
  cases fate with
  | skip => exact List.nil_sublist _
  | enter => simp [Fate.sites]
  | unwrap =>
      rw [subtree_eq]
      exact ((content_sublist_children child).flatMap subtree).cons child

/-- A walk goes on to parts of the tree below, from first to last and without going back. -/
lemma flatMap_subtree_descend_sublist (site : Site) (fates : List Fate) :
    ((site.descend fates).flatMap subtree).Sublist site.below := by
  have key : ∀ (sites : List Site) (fates : List Fate),
      (((sites.zip fates).flatMap fun pair => pair.2.sites pair.1).flatMap subtree).Sublist
        (sites.flatMap subtree) := by
    intro sites
    induction sites with
    | nil => intro fates; simp
    | cons first rest ih =>
        intro fates
        cases fates with
        | nil => simp
        | cons fate fates =>
            rw [List.zip_cons_cons, List.flatMap_cons, List.flatMap_append, List.flatMap_cons]
            exact (flatMap_subtree_sites_sublist fate first).append (ih fates)
  exact (key site.content fates).trans
    ((content_sublist_children site).flatMap subtree)

/-- On a stack under which no trail is met twice a step keeps it so, and leaves the site where it
was taken for good. -/
lemma nodup_trails_descend {site : Site} {stack : List Site}
    (h : (((site :: stack).flatMap subtree).map trail).Nodup) (fates : List Fate) :
    (((site.descend fates ++ stack).flatMap subtree).map trail).Nodup ∧
      site ∉ (site.descend fates ++ stack).flatMap subtree := by
  have hpending : ((site.descend fates ++ stack).flatMap subtree).Sublist
      (site.below ++ stack.flatMap subtree) := by
    rw [List.flatMap_append]
    exact (flatMap_subtree_descend_sublist site fates).append_right _
  rw [List.flatMap_cons, subtree_eq, List.cons_append, List.map_cons, List.nodup_cons] at h
  exact ⟨h.2.sublist (hpending.map trail), fun hmem =>
    h.1 (List.mem_map_of_mem (hpending.subset hmem))⟩

/-- What lies below a site lies under no other site of such a stack. -/
lemma not_mem_flatMap_of_mem_below {site x : Site} {stack : List Site}
    (h : (((site :: stack).flatMap subtree).map trail).Nodup) (hx : x ∈ site.below) :
    x ∉ stack.flatMap subtree := by
  intro hstack
  rw [List.flatMap_cons, List.map_append, List.nodup_append, subtree_eq] at h
  exact h.2.2 _ (List.mem_map_of_mem (List.mem_cons_of_mem _ hx)) _ (List.mem_map_of_mem hstack) rfl

/-- Sites whose trees have no trail twice among them are separate. -/
lemma pairwise_separate_of_nodup {sites : List Site}
    (h : ((sites.flatMap subtree).map trail).Nodup) : sites.Pairwise Separate := by
  rw [List.map_flatMap, List.nodup_flatMap] at h
  refine h.2.imp fun {a b} hab x hx y hy heq => ?_
  exact (List.disjoint_left.mp hab) (List.mem_map_of_mem hx) (heq ▸ List.mem_map_of_mem hy)

/-- **A descent splits up**: whatever a walk goes on to lies below the site where it stands, and no
two of these sites are the same or have anything below them in common. -/
theorem pairwise_separate_descend (site : Site) (fates : List Fate) :
    (∀ next ∈ site.descend fates, next ∈ site.below) ∧
      (site.descend fates).Pairwise Separate := by
  have hsublist := flatMap_subtree_descend_sublist site fates
  constructor
  · intro next hnext
    exact hsublist.subset (List.mem_flatMap.mpr ⟨next, hnext, mem_subtree_self next⟩)
  · have hnodup := nodup_trails site
    rw [subtree_eq, List.map_cons, List.nodup_cons] at hnodup
    exact pairwise_separate_of_nodup (hnodup.2.sublist (hsublist.map trail))

end Site

end SourceLayers
