/-
From overlapping candidates to a partition:

* `Cell`: the best claim on one offset so far;
* `paint`: puts a candidate on the cells that it covers. It takes a cell only with a strictly higher
  priority, so among equals the first one keeps it;
* `sweep`: paints the candidates over the cells of a text, one after the other;
* `mergeRuns`: maximal runs of one layer become regions, and unclaimed offsets stay gaps;
* `resolve`: both steps. Beside it stands `winner?`, the layer of one offset read off the candidates
  directly.

Main statement: `getElem?_paint`, what painting does to each cell.
-/
import SourceLayers.Span

namespace SourceLayers

/-- The best claim on an offset so far. An offset that nobody claimed has priority zero and no
layer. -/
structure Cell where
  priority : Int := 0
  layer : Option Layer := none
  deriving DecidableEq, Repr

/-- Paints a candidate on a cell that it covers. -/
def Cell.paint (candidate : Candidate) (cell : Cell) : Cell :=
  if cell.priority < candidate.priority then
    { priority := candidate.priority, layer := some candidate.layer }
  else cell

/-- Paints a candidate on the cells that it covers, as far as there are any. -/
def paint (candidate : Candidate) (cells : Array Cell) : Array Cell :=
  (List.range' candidate.start (min candidate.stop cells.size - candidate.start)).foldl
    (fun cells p => cells.modify p (Cell.paint candidate)) cells

/-- Changing a range of entries changes the entries of that range. -/
theorem getElem?_foldl_modify {α : Type} (f : α → α) (entries : Array α) (start count p : Nat) :
    ((List.range' start count).foldl (fun entries i => entries.modify i f) entries)[p]? =
      if start ≤ p ∧ p < start + count then entries[p]?.map f else entries[p]? := by
  induction count generalizing start entries with
  | zero =>
    rw [if_neg (by omega)]
    rfl
  | succ count ih =>
    rw [List.range'_succ, List.foldl_cons, ih, Array.getElem?_modify]
    by_cases h : start = p
    · subst h
      rw [if_neg (by omega), if_pos rfl, if_pos (by omega)]
    · rw [if_neg h]
      have hiff : (start + 1 ≤ p ∧ p < start + 1 + count) ↔
          (start ≤ p ∧ p < start + (count + 1)) := by omega
      simp only [hiff]

/-- Painting puts the candidate on the cells that it covers and leaves the others alone. -/
theorem getElem?_paint (candidate : Candidate) (cells : Array Cell) (p : Nat) :
    (paint candidate cells)[p]? =
      if candidate.Covers p then cells[p]?.map (Cell.paint candidate) else cells[p]? := by
  rw [paint, getElem?_foldl_modify]
  by_cases hp : p < cells.size
  · have hiff : (candidate.start ≤ p ∧
        p < candidate.start + (min candidate.stop cells.size - candidate.start)) ↔
        candidate.Covers p := by
      unfold Span.Covers
      omega
    simp only [hiff]
  · rw [Array.getElem?_eq_none (by omega)]
    simp

/-- The end of the last candidate to end. -/
def extent (candidates : List Candidate) : Nat :=
  candidates.foldl (fun last candidate => max last candidate.stop) 0

/-- The cells of a text of `length` characters under the candidates, painted in order. Offsets that
no candidate reaches need no cell. -/
def sweep (candidates : List Candidate) (length : Nat) : Array Cell :=
  candidates.foldl (fun cells candidate => paint candidate cells)
    (Array.replicate (min length (extent candidates)) {})

/-- Puts the claim of a layer on offset `p` before regions that lie after `p`: a region of the same
layer that begins right there grows by one, otherwise a region of one offset is added. -/
def absorb (p : Nat) (layer : Layer) : List Region → List Region
  | [] => [{ start := p, stop := p + 1, start_lt_stop := by omega, layer }]
  | next :: rest =>
    if h : next.start = p + 1 ∧ next.layer = layer then
      { next with start := p, start_lt_stop := by have := next.start_lt_stop; omega } :: rest
    else
      { start := p, stop := p + 1, start_lt_stop := by omega, layer } :: next :: rest

/-- The maximal runs of one layer in a list of claims, the first of which is on offset `p`. -/
def mergeRuns (p : Nat) : List (Option Layer) → List Region
  | [] => []
  | none :: rest => mergeRuns (p + 1) rest
  | some layer :: rest => absorb p layer (mergeRuns (p + 1) rest)

/-- The partition of a text under the candidates: regions in increasing order that do not overlap,
with no two neighbours of one layer. A text length below one has no regions. -/
def resolve (candidates : List Candidate) (length : Int) : List Region :=
  mergeRuns 0 ((sweep candidates length.toNat).toList.map Cell.layer)

/-! ### One offset at a time -/

/-- The candidate that holds offset `p`: of those that cover it with a positive priority, the first
among the ones of highest priority. -/
def winner? (candidates : List Candidate) (p : Nat) : Option Candidate :=
  (candidates.filter fun c => decide (c.Covers p ∧ 0 < c.priority)).foldl
    (fun best c =>
      match best with
      | none => some c
      | some b => if b.priority < c.priority then some c else some b)
    none

end SourceLayers
