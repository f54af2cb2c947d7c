import SnapBlocks.Board.Basic

/-!
# Picking

Pointing at the canvas picks the topmost thing there: of all that cover the
point, the one that was painted last. What a thing covers is a list of
rectangles, of which one is enough.
-/

namespace SnapBlocks

/-- **The topmost item at a point.** The items are given in the order in which
they are painted, each with the rectangles that it covers. -/
def topmost? {α : Type} (p : Point) (items : List (α × List Rect)) : Option α :=
  (items.filter fun item => item.2.any (·.contains p)).getLast?.map Prod.fst

/-- **The block that is picked at a point.** -/
def Board.pick? (b : Board) (p : Point) : Option BlockId :=
  topmost? p (b.named.map fun (id, block) => (id, block.areas))

@[simp] theorem topmost?_nil {α : Type} (p : Point) :
    topmost? p ([] : List (α × List Rect)) = none :=
  rfl

/-- An item painted last is picked if it covers the point, and is not in the way
if it does not. -/
theorem topmost?_concat {α : Type} (p : Point) (items : List (α × List Rect))
    (item : α × List Rect) :
    topmost? p (items ++ [item]) =
      if item.2.any (·.contains p) then some item.1 else topmost? p items := by
  unfold topmost?
  rw [List.filter_append]
  by_cases h : item.2.any (·.contains p) <;> simp [h]

/-- What is picked is one of the items. -/
theorem mem_of_topmost? {α : Type} {p : Point} {items : List (α × List Rect)} {a : α}
    (picked : topmost? p items = some a) : ∃ areas, (a, areas) ∈ items := by
  obtain ⟨⟨_, areas⟩, last, rfl⟩ := Option.map_eq_some_iff.mp picked
  exact ⟨areas, (List.mem_filter.mp (List.mem_of_getLast? last)).1⟩

/-- What is picked is a block of the board. -/
theorem Board.isSome_of_pick? {b : Board} {p : Point} {id : BlockId}
    (picked : b.pick? p = some id) : (b.get? id).isSome := by
  obtain ⟨areas, painted⟩ := mem_of_topmost? picked
  obtain ⟨⟨_, block⟩, named, same⟩ := List.mem_map.mp painted
  cases same
  obtain ⟨_, -, found⟩ := List.mem_filterMap.mp named
  obtain ⟨block, found, same⟩ := Option.map_eq_some_iff.mp found
  cases same
  exact Option.isSome_of_eq_some found

end SnapBlocks
