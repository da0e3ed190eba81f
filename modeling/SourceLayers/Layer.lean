/-
The four layers of a source text:

* `Layer`, `Layer.all`: the layers, and the order in which they are listed;
* `Layer.name`, `Layer.ofName?`: their names;
* `Layer.priority`: which layer wins where candidates overlap.
-/

namespace SourceLayers

/-- What a stretch of source text belongs to: the base language, its types, its markup, or the
component library. -/
inductive Layer where
  | javascript
  | typescript
  | jsx
  | react
  deriving DecidableEq, Repr

namespace Layer

/-- The layers in the order in which reports list them. -/
def all : List Layer :=
  [.javascript, .typescript, .jsx, .react]

/-- Every layer is listed. -/
@[simp] theorem mem_all (layer : Layer) : layer ∈ all := by
  cases layer <;> decide

/-- The name of a layer in reports. -/
def name : Layer → String
  | .javascript => "javascript"
  | .typescript => "typescript"
  | .jsx => "jsx"
  | .react => "react"

/-- The layer of a name. -/
def ofName? (text : String) : Option Layer :=
  all.find? fun layer => layer.name == text

/-- Where candidates overlap the layer of the higher priority wins: the library over types, types
over markup, and markup over the base language. -/
def priority : Layer → Nat
  | .javascript => 1
  | .jsx => 2
  | .typescript => 3
  | .react => 4

/-- A layer is found under its own name. -/
@[simp] theorem ofName?_name (layer : Layer) : ofName? layer.name = some layer := by
  cases layer <;> decide

/-- Layers of one priority are the same layer. -/
theorem priority_injective {a b : Layer} (h : a.priority = b.priority) : a = b := by
  cases a <;> cases b <;> simp_all [priority]

end Layer

end SourceLayers
