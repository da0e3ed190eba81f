/-
Spans of a text and what is claimed about them:

* `Span`: a non-empty stretch of character offsets, `start` included and `stop` not;
* `Candidate`: a span with a layer and a priority, one of many that may overlap;
* `Region`: a span with the layer finally given to it;
* `Comment`: the bounds of a comment, and whether it runs to the end of its line;
* `SpanFault`: why bounds or a layer name are refused. A negative start is reported before an empty
  span, and that before an unknown layer.
-/
import SourceLayers.Layer
import SourceLayers.Text.Quoted

namespace SourceLayers

/-- Why a span or its layer is refused. -/
inductive SpanFault where
  | negativeStart (start : Int)
  | emptySpan (start stop : Int)
  | unknownLayer (name : String)
  | emptyComment (start stop : Int)
  deriving DecidableEq, Repr

/-- The wording of a refusal. -/
def SpanFault.message : SpanFault → String
  | .negativeStart start => "start must be >= 0, got " ++ toString start
  | .emptySpan start stop =>
    "end must be > start, got " ++ toString stop ++ " <= " ++ toString start
  | .unknownLayer name => "unknown layer " ++ quote name
  | .emptyComment start stop =>
    "comment end must be > start, got " ++ toString stop ++ " <= " ++ toString start

/-! ### Spans -/

/-- A stretch of offsets, from `start` up to `stop` without it, that is not empty. -/
structure Span where
  start : Nat
  stop : Nat
  start_lt_stop : start < stop
  deriving DecidableEq, Repr

namespace Span

/-- Whether an offset lies in the span. -/
def Covers (span : Span) (p : Nat) : Prop :=
  span.start ≤ p ∧ p < span.stop

instance (span : Span) (p : Nat) : Decidable (span.Covers p) :=
  inferInstanceAs (Decidable (_ ∧ _))

/-- The number of offsets in the span. -/
def length (span : Span) : Nat :=
  span.stop - span.start

/-- The span between two integers. -/
def ofBounds (start stop : Int) : Except SpanFault Span :=
  if h₀ : start < 0 then .error (.negativeStart start)
  else if h₁ : stop ≤ start then .error (.emptySpan start stop)
  else .ok ⟨start.toNat, stop.toNat, by omega⟩

end Span

/-- The layer of a name, or a refusal. -/
def Layer.ofName (name : String) : Except SpanFault Layer :=
  match Layer.ofName? name with
  | some layer => .ok layer
  | none => .error (.unknownLayer name)

/-! ### Candidates and regions -/

/-- A provisional claim of a layer on a span. Candidates may overlap. -/
structure Candidate extends Span where
  layer : Layer
  priority : Int
  deriving DecidableEq, Repr

/-- A span of the final partition with its layer. -/
structure Region extends Span where
  layer : Layer
  deriving DecidableEq, Repr

/-- The candidate with the given bounds, layer name and priority. -/
def Candidate.ofBounds (start stop : Int) (layer : String) (priority : Int) :
    Except SpanFault Candidate := do
  let span ← Span.ofBounds start stop
  return { span with layer := ← Layer.ofName layer, priority }

/-- The region with the given bounds and layer name. -/
def Region.ofBounds (start stop : Int) (layer : String) : Except SpanFault Region := do
  let span ← Span.ofBounds start stop
  return { span with layer := ← Layer.ofName layer }

/-- The candidate of a layer on the given bounds, at the layer's own priority. There is none for a
negative start or an empty span. -/
def Candidate.make? (start stop : Int) (layer : Layer) : Option Candidate :=
  if h : 0 ≤ start ∧ start < stop then
    some { start := start.toNat, stop := stop.toNat, start_lt_stop := by omega, layer,
           priority := layer.priority }
  else none

/-- The same from the name of a layer, which is looked up only if there is a candidate to build. -/
def Candidate.makeNamed? (start stop : Int) (layer : String) :
    Except SpanFault (Option Candidate) :=
  if 0 ≤ start ∧ start < stop then (Candidate.make? start stop ·) <$> Layer.ofName layer
  else .ok none

/-- Candidates built for a layer carry its priority. -/
theorem Candidate.priority_of_make? {start stop : Int} {layer : Layer} {c : Candidate}
    (h : Candidate.make? start stop layer = some c) :
    c.layer = layer ∧ c.priority = layer.priority := by
  unfold Candidate.make? at h
  split at h
  · cases h
    exact ⟨rfl, rfl⟩
  · cases h

/-! ### Comments -/

/-- The bounds of a comment. A line comment ends with its line; a block comment has an end mark. -/
structure Comment where
  start : Int
  stop : Int
  isLine : Bool
  start_lt_stop : start < stop
  deriving DecidableEq, Repr

/-- The comment with the given bounds. -/
def Comment.ofBounds (start stop : Int) (isLine : Bool) : Except SpanFault Comment :=
  if h : stop ≤ start then .error (.emptyComment start stop)
  else .ok ⟨start, stop, isLine, by omega⟩

end SourceLayers
