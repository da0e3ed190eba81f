/-
The order of paths:

* `namesBefore_iff`: lists of names are ordered as words are, name by name;
* `Path.ComesBefore`: a path comes before another one, part by part. It is what sorting goes by
  (`Path.before_iff`), and any two paths are sorted (`Path.before_total`, `Path.before_trans`);
* `Path.Proper`: a path as it is read from a text (`Path.proper_ofString`). Different ones have
  different places in the order (`Path.sortKey_injective`);
* `eraseDups_sublist`: what is left of a sorted list without its duplicates is sorted.
-/
import Mathlib.Tactic
import SourceLayers.FileTree.Path

namespace SourceLayers

/-! ### Names -/

/-- Names are compared as letters of words are: the first difference decides, and a list comes
before its continuations. -/
lemma namesBefore_iff {xs ys : List String} :
    namesBefore xs ys = true ↔ xs = ys ∨ List.Lex (· < ·) xs ys := by
  fun_induction namesBefore xs ys with
  | case1 ys => cases ys <;> simp
  | case2 x xs => simp
  | case3 xs y ys ih =>
      simp only [ih, List.cons.injEq, true_and, List.cons_lex_cons_iff, String.lt_irrefl, false_or]
  | case4 x xs y ys hne =>
      simp only [decide_eq_true_eq, List.cons.injEq, hne, false_and, false_or,
        List.cons_lex_cons_iff, or_false]

/-! ### Paths -/

namespace Path

variable {a b c path : Path}

/-- A path comes before another one, part by part. -/
def ComesBefore (a b : Path) : Prop :=
  List.Lex (· < ·) a.sortKey b.sortKey

lemma before_iff : a.before b = true ↔ a.sortKey = b.sortKey ∨ a.ComesBefore b :=
  namesBefore_iff

lemma before_trans (h : a.before b = true) (h' : b.before c = true) : a.before c = true := by
  rw [before_iff] at *
  rcases h with heq | hlt
  · rwa [heq, ComesBefore, heq]
  · rcases h' with heq' | hlt'
    · exact Or.inr (by rwa [ComesBefore, ← heq'])
    · exact Or.inr (List.lex_trans String.lt_trans hlt hlt')

/-- Of two paths one comes before the other, or they have the same place. -/
lemma before_total (a b : Path) : (a.before b || b.before a) = true := by
  rw [Bool.or_eq_true, before_iff, before_iff]
  by_cases hlt : a.ComesBefore b
  · exact Or.inl (Or.inr hlt)
  · by_cases hgt : b.ComesBefore a
    · exact Or.inr (Or.inr hgt)
    · exact Or.inl (Or.inl ((List.Lex.trichotomous (· < ·)).trichotomous _ _ hlt hgt))

/-- A path as it is read from a text: its anchor has nothing but slashes, and its parts have
none. -/
structure Proper (path : Path) : Prop where
  anchor : ∀ c ∈ path.anchor.toList, c = '/'
  parts : ∀ part ∈ path.parts, '/' ∉ part.toList

/-- Different proper paths have different places in the order. -/
lemma sortKey_injective (ha : a.Proper) (hb : b.Proper) (h : a.sortKey = b.sortKey) : a = b := by
  -- an anchor is no part
  have hne : ∀ {p q : Path}, p.Proper → q.Proper → q.anchor ≠ "" →
      p.parts ≠ q.anchor :: q.parts := by
    intro p q hp hq hanchor hparts
    have hmem : q.anchor ∈ p.parts := by
      rw [hparts]
      exact List.mem_cons_self
    have hchars : q.anchor.toList ≠ [] := fun hnil => hanchor (String.toList_eq_nil_iff.mp hnil)
    obtain ⟨c, hc⟩ := List.exists_mem_of_ne_nil _ hchars
    obtain rfl := hq.anchor c hc
    exact hp.parts _ hmem hc
  obtain ⟨anchor, parts⟩ := a
  obtain ⟨anchor', parts'⟩ := b
  simp only [sortKey] at h
  split_ifs at h with hleft hright hright
  · rw [hleft, hright, h]
  · exact absurd h (hne ha hb hright)
  · exact absurd h.symm (hne hb ha hleft)
  · obtain ⟨rfl, rfl⟩ := List.cons.inj h
    rfl

lemma slash_notMem_of_mem_splitAtSlashes {text part : List Char}
    (h : part ∈ splitAtSlashes text) : '/' ∉ part := by
  induction text generalizing part with
  | nil => simp_all [splitAtSlashes]
  | cons c rest ih =>
      rw [splitAtSlashes] at h
      split_ifs at h with hc
      · rcases List.mem_cons.mp h with rfl | h
        · exact List.not_mem_nil
        · exact ih h
      · split at h
        · rw [List.mem_singleton.mp h, List.mem_singleton]
          exact Ne.symm hc
        · rename_i first parts hsplit
          rw [hsplit] at ih
          rcases List.mem_cons.mp h with rfl | h
          · rw [List.mem_cons, not_or]
            exact ⟨Ne.symm hc, ih List.mem_cons_self⟩
          · exact ih (List.mem_cons_of_mem _ h)

/-- The path of a text is proper. -/
lemma proper_ofString (text : String) : (ofString text).Proper := by
  refine ⟨fun c hc => ?_, fun part hpart => ?_⟩
  · simp only [ofString] at hc
    split_ifs at hc <;> simp_all
  · obtain ⟨hmem, -⟩ := List.mem_filter.mp hpart
    obtain ⟨chars, hchars, rfl⟩ := List.mem_map.mp hmem
    rw [String.toList_ofList]
    exact slash_notMem_of_mem_splitAtSlashes hchars

end Path

/-! ### Duplicates -/

/-- What is left without duplicates stands in the order of the list. -/
lemma eraseDups_sublist (paths : List Path) : paths.eraseDups.Sublist paths := by
  induction hlength : paths.length using Nat.strong_induction_on generalizing paths with
  | _ n ih =>
      cases paths with
      | nil => exact List.Sublist.refl _
      | cons first rest =>
          rw [List.eraseDups_cons]
          have hfewer := List.length_filter_le (fun path => !path == first) rest
          have hrest := ih _ (by rw [← hlength]; exact Nat.lt_succ_of_le hfewer) _ rfl
          exact (hrest.trans List.filter_sublist).cons_cons first

end SourceLayers
