/-
The halving search on sorted entries:

* `partitionPoint_spec`: where a test turns only once from true to false, the search ends there;
* `getD_le_getD`: sorted entries do not decrease with their places;
* `countLessEq_spec`: on sorted entries, those before the count are at most the value, and those
  from the count on exceed it.
-/
import Mathlib.Tactic
import SourceLayers.Search.PartitionPoint

namespace SourceLayers

/-- The invariant of the search: the test holds before the window and fails after it. Where the test
turns only once, the window shrinks to the place where it does. -/
lemma partitionPoint_spec (test : Nat → Bool) (lo hi : Nat) (hle : lo ≤ hi)
    (hmono : ∀ i j, i ≤ j → j < hi → test j = true → test i = true) :
    (lo ≤ partitionPoint test lo hi ∧ partitionPoint test lo hi ≤ hi) ∧
      (∀ i, lo ≤ i → i < partitionPoint test lo hi → test i = true) ∧
      ∀ i, partitionPoint test lo hi ≤ i → i < hi → test i = false := by
  fun_induction partitionPoint test lo hi with
  | case1 lo hi hlt middle htest ih =>
      obtain ⟨hbounds, hbefore, hafter⟩ := ih (by omega) hmono
      refine ⟨by omega, fun i hlo hi' => ?_, hafter⟩
      by_cases hmiddle : i ≤ middle
      · exact hmono i middle hmiddle (by omega) htest
      · exact hbefore i (by omega) hi'
  | case2 lo hi hlt middle htest ih =>
      obtain ⟨hbounds, hbefore, hafter⟩ :=
        ih (by omega) fun i j hij hj => hmono i j hij (by omega)
      refine ⟨by omega, hbefore, fun i hfrom hhi => ?_⟩
      by_cases hmiddle : i < middle
      · exact hafter i hfrom hmiddle
      · by_contra htrue
        have htest' : test middle = true :=
          hmono middle i (by omega) hhi (by simpa using htrue)
        exact htest htest'
  | case3 lo hi hlt =>
      exact ⟨by omega, fun i hlo hi' => by omega, fun i hfrom hhi => by omega⟩

/-- Sorted entries do not decrease with their places. -/
lemma getD_le_getD {entries : Array Int} (hsorted : entries.toList.Pairwise (· ≤ ·)) {i j : Nat}
    (hij : i ≤ j) (hj : j < entries.size) : entries.getD i 0 ≤ entries.getD j 0 := by
  rcases hij.eq_or_lt with rfl | hlt
  · exact le_rfl
  · have hi : i < entries.size := hlt.trans hj
    have hget := List.pairwise_iff_getElem.mp hsorted i j (by simpa using hi) (by simpa using hj)
      hlt
    simp only [Array.getElem_toList] at hget
    simp only [Array.getD, hi, hj, dif_pos]
    exact hget

/-- The number of entries up to a value splits sorted entries. -/
lemma countLessEq_spec {entries : Array Int} (hsorted : entries.toList.Pairwise (· ≤ ·))
    (value : Int) :
    countLessEq entries value ≤ entries.size ∧
      (∀ i, i < countLessEq entries value → entries.getD i 0 ≤ value) ∧
      ∀ i, countLessEq entries value ≤ i → i < entries.size → value < entries.getD i 0 := by
  have hmono : ∀ i j, i ≤ j → j < entries.size →
      decide (entries.getD j 0 ≤ value) = true → decide (entries.getD i 0 ≤ value) = true := by
    intro i j hij hj htest
    simp only [decide_eq_true_eq] at htest ⊢
    exact (getD_le_getD hsorted hij hj).trans htest
  obtain ⟨hbounds, hbefore, hafter⟩ :=
    partitionPoint_spec _ 0 entries.size (Nat.zero_le _) hmono
  refine ⟨hbounds.2, fun i hi => ?_, fun i hfrom hi => ?_⟩
  · simpa using hbefore i (Nat.zero_le _) hi
  · simpa using hafter i hfrom hi

end SourceLayers
