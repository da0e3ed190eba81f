/-
Slices of a text by offsets:

* `cut`: the characters between two natural offsets;
* `resolveIndex`, `entryAt?`: an integer index, where a negative one counts from the end;
* `boundOffset`: an integer bound, where a negative one counts from the end;
* `OffsetFault`: an offset that a text or a table does not have;
* `occursIn`: whether a text holds another one.
-/

namespace SourceLayers

/-- The characters at the offsets `start`, …, `stop - 1`, as far as the text has them. -/
def cut (text : List Char) (start stop : Nat) : List Char :=
  (text.drop start).take (stop - start)

/-- The place of an index in a list of `size` entries: a negative index counts from the end. There
is none outside the list. -/
def resolveIndex (size : Nat) (index : Int) : Option Nat :=
  let place := if index < 0 then index + size else index
  if 0 ≤ place ∧ place < size then some place.toNat else none

/-- An offset that a text or a table does not have. -/
structure OffsetFault where
  offset : Int
  deriving DecidableEq, Repr

/-- The entry at an index, where a negative index counts from the end. -/
def entryAt? {α : Type} (entries : Array α) (index : Int) : Option α :=
  (resolveIndex entries.size index).bind fun place => entries[place]?

/-- The offset that a bound stands for: a negative bound counts from the end of the text, but not
beyond its start. -/
def boundOffset (text : List Char) (bound : Int) : Nat :=
  if bound < 0 then (bound + text.length).toNat else bound.toNat

/-- Whether `part` stands somewhere in `text` without interruption. -/
def occursIn (part text : List Char) : Bool :=
  match text with
  | [] => part.isEmpty
  | c :: rest => part.isPrefixOf (c :: rest) || occursIn part rest

end SourceLayers
