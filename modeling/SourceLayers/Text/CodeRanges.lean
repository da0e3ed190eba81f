/-
Ranges of code points, the data form of a character class:

* `CodeRanges`: inclusive ranges `(first, last)`, in increasing order;
* `CodeRanges.contains`: membership of a character, by its code point.
-/

namespace SourceLayers

/-- Inclusive ranges of code points. The tables of this library list them in increasing order and
apart from each other. -/
abbrev CodeRanges := List (Nat × Nat)

/-- Whether a character lies in one of the ranges. -/
def CodeRanges.contains (ranges : CodeRanges) (c : Char) : Bool :=
  ranges.any fun range => range.1 ≤ c.toNat && c.toNat ≤ range.2

end SourceLayers
