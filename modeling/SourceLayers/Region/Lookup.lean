/-
Reading a partition back:

* `layerAt`: the layer of an offset, by halving search on the starts of the regions;
* `layerAtLinear`: the same by looking at every region;
* `coverage`: the number of characters that each layer holds.
-/
import SourceLayers.Region.Resolve
import SourceLayers.Search.PartitionPoint
import SourceLayers.Total

namespace SourceLayers

/-- The layer of an offset: that of the last region that does not start after it, if the offset
lies before that region's end. The regions are taken to be sorted; the search does not check. -/
def layerAt (regions : List Region) (p : Int) : Option Layer :=
  match countLessEq (regions.map fun region => (region.start : Int)).toArray p with
  | 0 => none
  | i + 1 =>
    match regions[i]? with
    | some region => if region.start ≤ p ∧ p < region.stop then some region.layer else none
    | none => none

/-- The layer of the first region that holds the offset. -/
def layerAtLinear (regions : List Region) (p : Int) : Option Layer :=
  (regions.find? fun region => decide (region.start ≤ p ∧ p < region.stop)).map Region.layer

/-- The number of characters in the regions of a layer. -/
def coverage (regions : List Region) (layer : Layer) : Nat :=
  total (fun region => region.length) (regions.filter fun region => region.layer == layer)

end SourceLayers
