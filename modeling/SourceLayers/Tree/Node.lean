/-
Concrete syntax trees:

* `Node`: a node with its kind, its offsets, its flags, the field it fills in its parent, and its
  children;
* `Node.content`, `Node.parts`: the named children, and all children, without comments;
* `Node.field?`, `Node.fields`, `Node.token?`, `Node.ofKinds`: children by field, by token, by kind;
* `Node.size`: the number of nodes, the measure of every walk.

A tree is what a parser reports, and nothing is assumed of it: kinds are any texts, fields may be
missing, and offsets need not fit the text or each other.
-/

namespace SourceLayers

/-- A node of a syntax tree, with everything below it. -/
structure Node where
  /-- The grammar's name for the construct. -/
  kind : String
  /-- The offset where the node begins. -/
  start : Nat
  /-- The offset where the node ends. -/
  stop : Nat
  /-- Whether the node stands for a named construct, and not for a bare token. -/
  named : Bool
  /-- Whether the node was made up to recover from an error. -/
  missing : Bool
  /-- The field that the node fills in its parent. -/
  field : Option String
  /-- The children in order. -/
  children : List Node

instance : Inhabited Node :=
  ⟨⟨"program", 0, 0, true, false, none, []⟩⟩

/-- The kinds of comments. -/
def commentKinds : List String :=
  ["comment", "html_comment", "hash_bang_line"]

namespace Node

/-- Whether a node is a comment. -/
def isComment (node : Node) : Bool :=
  commentKinds.contains node.kind

/-- Whether a node is named and no comment. -/
def isContent (node : Node) : Bool :=
  node.named && !node.isComment

/-- Whether a node stands for an error, or was made up to recover from one. -/
def isError (node : Node) : Bool :=
  node.kind == "ERROR" || node.missing

/-- Whether a node is a bare token of the given kind. -/
def isToken (kind : String) (node : Node) : Bool :=
  !node.named && node.kind == kind

/-- The named children without comments. -/
def content (node : Node) : List Node :=
  node.children.filter isContent

/-- All children without comments. -/
def parts (node : Node) : List Node :=
  node.children.filter fun child => !child.isComment

/-- The children in a field. -/
def fields (node : Node) (name : String) : List Node :=
  node.children.filter fun child => child.field == some name

/-- The first child in a field. -/
def field? (node : Node) (name : String) : Option Node :=
  node.children.find? fun child => child.field == some name

/-- The first child that is a bare token of the given kind. -/
def token? (node : Node) (kind : String) : Option Node :=
  node.children.find? (isToken kind)

/-- Whether there is such a token. -/
def hasToken (node : Node) (kind : String) : Bool :=
  (node.token? kind).isSome

/-- The children of the given kinds. -/
def ofKinds (node : Node) (kinds : List String) : List Node :=
  node.children.filter fun child => kinds.contains child.kind

/-! ### Size -/

mutual
/-- The number of nodes of a tree. -/
def size : Node → Nat
  | ⟨_, _, _, _, _, _, children⟩ => 1 + sizeAll children

/-- The number of nodes of a list of trees. -/
def sizeAll : List Node → Nat
  | [] => 0
  | node :: rest => size node + sizeAll rest
end

/-- A tree is one node and the trees of its children. -/
theorem size_eq (node : Node) : node.size = 1 + sizeAll node.children := by
  cases node
  rfl

@[simp] theorem sizeAll_nil : sizeAll [] = 0 := rfl

@[simp] theorem sizeAll_cons (node : Node) (rest : List Node) :
    sizeAll (node :: rest) = node.size + sizeAll rest := rfl

/-- The size of a list in two parts. -/
theorem sizeAll_append (xs ys : List Node) : sizeAll (xs ++ ys) = sizeAll xs + sizeAll ys := by
  induction xs with
  | nil => simp
  | cons x xs ih => simp [ih, Nat.add_assoc]

/-- The order of a list does not matter for its size. -/
theorem sizeAll_reverse (nodes : List Node) : sizeAll nodes.reverse = sizeAll nodes := by
  induction nodes with
  | nil => rfl
  | cons node rest ih => simp [sizeAll_append, ih, Nat.add_comm]

/-- Leaving children out does not add nodes. -/
theorem sizeAll_filter_le (p : Node → Bool) (nodes : List Node) :
    sizeAll (nodes.filter p) ≤ sizeAll nodes := by
  induction nodes with
  | nil => simp
  | cons node rest ih =>
    by_cases h : p node = true
    · simpa [h] using ih
    · simp only [List.filter_cons, h, sizeAll_cons]
      simp
      omega

/-- The content of a node is smaller than the node. -/
theorem sizeAll_content_lt (node : Node) : sizeAll node.content < node.size := by
  have := sizeAll_filter_le isContent node.children
  rw [size_eq]
  unfold content
  omega

/-! ### Offsets -/

mutual
/-- The tree with every offset moved by a function that may refuse. -/
def mapOffsets {ε : Type} (f : Nat → Except ε Nat) : Node → Except ε Node
  | ⟨kind, start, stop, named, missing, field, children⟩ => do
    let start ← f start
    let stop ← f stop
    let children ← mapOffsetsAll f children
    return ⟨kind, start, stop, named, missing, field, children⟩

/-- The same for a list of trees. -/
def mapOffsetsAll {ε : Type} (f : Nat → Except ε Nat) : List Node → Except ε (List Node)
  | [] => return []
  | node :: rest => do
    let node ← mapOffsets f node
    let rest ← mapOffsetsAll f rest
    return node :: rest
end

end Node

end SourceLayers
