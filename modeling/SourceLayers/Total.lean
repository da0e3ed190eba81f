/-
Sums over lists: `total` adds up a size of the items of a list.
-/

namespace SourceLayers

/-- The sum of the sizes of some items. -/
def total {α : Type} (size : α → Nat) (items : List α) : Nat :=
  items.foldr (fun item rest => size item + rest) 0

@[simp] theorem total_nil {α : Type} (size : α → Nat) : total size [] = 0 := rfl

@[simp] theorem total_cons {α : Type} (size : α → Nat) (item : α) (rest : List α) :
    total size (item :: rest) = size item + total size rest := rfl

end SourceLayers
