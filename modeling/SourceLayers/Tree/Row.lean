/-
Trees as tables:

* `Row`: a node without its children, with the position of its parent in the table;
* `Row.ofJson?`: a row as the list of its kind, start, stop, flags, parent and field;
* `Node.ofRows?`: the tree of a table whose rows stand in pre-order;
* `Node.ofJson?`: both steps.
-/
import SourceLayers.Json.Basic
import SourceLayers.Tree.Node

namespace SourceLayers

/-- A node without its children. The parent of the root is below zero. -/
structure Row where
  node : Node
  parent : Int

/-- Reads a row. The flags are two bits: the lower for a named node, the upper for a missing one. -/
def Row.ofJson? : Json → Option Row
  | .arr [.str kind, .int start, .int stop, .int flags, .int parent, field] =>
    some
      { node :=
          { kind
            start := start.toNat
            stop := stop.toNat
            named := flags.toNat % 2 == 1
            missing := flags.toNat / 2 % 2 == 1
            field := field.str?
            children := [] }
        parent }
  | _ => none

/-- The children of every row of a table, from the last row to the first: a row comes to the front
of the children of its parent, with its own children, which all stand further on. -/
def childTable (rows : List Row) : Array (List Node) :=
  rows.zipIdx.foldr
    (fun (row, i) table =>
      let node := { row.node with children := table.getD i [] }
      if row.parent < 0 then table else table.modify row.parent.toNat (node :: ·))
    (Array.replicate rows.length [])

/-- The tree of a table, whose first row is the root. -/
def Node.ofRows? (rows : List Row) : Option Node :=
  rows.head?.map fun row => { row.node with children := (childTable rows).getD 0 [] }

/-- The tree of a table given as a JSON value. -/
def Node.ofJson? (value : Json) : Option Node := do
  let items ← value.arr?
  let rows ← items.mapM Row.ofJson?
  Node.ofRows? rows

end SourceLayers
