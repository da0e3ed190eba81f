/-
Halving search:

* `partitionPoint`: where a test on the positions of a window turns from true to false, found by
  halving the window;
* `countLessEq`: how many entries of a sorted array are at most a value.

On a window where the test does turn only once the result is that place; on any other window it is
whatever the halving meets.
-/

namespace SourceLayers

/-- Halves the window from `lo` up to `hi` without it: where the test holds the search goes on
after the middle, and where it fails up to the middle. -/
def partitionPoint (test : Nat → Bool) (lo hi : Nat) : Nat :=
  if lo < hi then
    let middle := (lo + hi) / 2
    if test middle then partitionPoint test (middle + 1) hi else partitionPoint test lo middle
  else lo
termination_by hi - lo

/-- The number of entries that are at most a value, in an array sorted upwards. -/
def countLessEq (entries : Array Int) (value : Int) : Nat :=
  partitionPoint (fun i => decide (entries.getD i 0 ≤ value)) 0 entries.size

end SourceLayers
