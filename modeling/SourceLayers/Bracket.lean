/-
Angle brackets, found in the text itself:

* `openingBracket?`: the last `<` up to an offset;
* `closingBracket`: the `>` that balances the bracket at an offset;
* `bracketRange?`: the bounds of the list `<…>` whose first entry starts at an offset.

A search that finds nothing answers `none`. Only `closingBracket` can fault: an offset so far below
zero that, counted from the end, it is still outside the text.
-/
import SourceLayers.Text.Slice

namespace SourceLayers

/-- The offset of the last `<` that is at most `last`. -/
def openingBracket? (text : List Char) (last : Int) : Option Nat :=
  if last < 0 then none
  else
    let seen := text.take (last.toNat + 1)
    (seen.reverse.findIdx? (· == '<')).map fun back => seen.length - 1 - back

/-- The place of the `>` that closes the innermost of `depth` open brackets, and with it all of
them. -/
def balanceIndex? : (depth : Nat) → List Char → Option Nat
  | _, [] => none
  | depth, c :: rest =>
    if c = '<' then (balanceIndex? (depth + 1) rest).map (· + 1)
    else if c = '>' then
      if depth ≤ 1 then some 0 else (balanceIndex? (depth - 1) rest).map (· + 1)
    else (balanceIndex? depth rest).map (· + 1)

/-- The offset of the `>` that balances the bracket at `opening`. The search starts one further on;
where that is below zero it counts from the end of the text, runs to its end and then through the
text once more. -/
def closingBracket (text : List Char) (opening : Int) : Except OffsetFault (Option Int) :=
  let first := opening + 1
  if 0 ≤ first then
    .ok ((balanceIndex? 1 (text.drop first.toNat)).map fun i => first + i)
  else if first + text.length < 0 then .error ⟨first⟩
  else
    .ok ((balanceIndex? 1 (text.drop (first + text.length).toNat ++ text)).map fun i => first + i)

/-- The bounds of the list `<…>` whose first entry starts at the offset `entry`. -/
def bracketRange? (text : List Char) (entry : Int) : Option (Nat × Nat) := do
  let opening ← openingBracket? text (entry - 1)
  let close ← balanceIndex? 1 (text.drop (opening + 1))
  return (opening, opening + close + 2)

end SourceLayers
