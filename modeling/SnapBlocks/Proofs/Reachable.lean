import SnapBlocks.Proofs.Passage

/-!
# Boards that can come up

A board that can come up is made from the empty one by the operations on boards:
placing a fresh block, giving a block a text, moving a block or a subtree, setting a
bar, clearing the links, and settling. `Board.Reachable` is closed under these
operations and nothing else, for all coordinates, displacements, extents and ranges.

The links of such a board form a forest, and so do those of every board that a
settling of it passes through. As for the blocks themselves, what holds of a fresh
block and is kept by all changes of a single block holds of every block.
-/

namespace SnapBlocks

namespace Board

variable {b c s : Board} {range : Float32}

/-- **A board that can come up.** -/
inductive Reachable : Board → Prop
  /-- The empty board can. -/
  | empty : Reachable .empty
  /-- A fresh block is placed, with any text. -/
  | push {b : Board} (kind : Kind) (origin : Point) (code : String) : Reachable b →
      Reachable (b.push ((Block.place kind origin).recode code))
  /-- A block gets a text. -/
  | recode {b : Board} (id : BlockId) (code : String) : Reachable b →
      Reachable (b.modify id (·.recode code))
  /-- A block is moved, without what it holds. -/
  | translate {b : Board} (id : BlockId) (delta : Point) : Reachable b →
      Reachable (b.modify id (·.translate delta))
  /-- A subtree is moved. -/
  | carry {b : Board} (id : BlockId) (delta : Point) : Reachable b → Reachable (b.carry id delta)
  /-- A subtree is moved to a point. -/
  | snap {b : Board} (id : BlockId) (target : Point) : Reachable b → Reachable (b.snap id target)
  /-- A bar gets a length. -/
  | resize {b : Board} (id : BlockId) (extent : Float32) : Reachable b →
      Reachable (b.modify id (·.resize extent))
  /-- All links are cleared. -/
  | unlink {b : Board} : Reachable b → Reachable b.unlink
  /-- The board is settled. -/
  | settle {b s : Board} {range : Float32} {report : Report} : Reachable b →
      b.settle range = .ok (s, report) → Reachable s

/-! ## Links -/

/-- **The links of a board that can come up form a forest.** -/
theorem Reachable.forest (h : Reachable b) : b.Forest := by
  induction h with
  | empty => exact unlinked_empty.forest
  | push kind origin code _ ih => exact ih.push rfl
  | recode id code _ ih => exact ih.congr (sameLinks_modify _ id fun _ => rfl)
  | translate id delta _ ih => exact ih.congr (sameLinks_modify _ id fun _ => rfl)
  | carry id delta _ ih => exact ih.congr (sameRoles_carry _ id delta).sameLinks
  | snap id target _ ih => exact ih.congr (sameRoles_snap _ id target).sameLinks
  | resize id extent _ ih =>
    exact ih.congr (sameLinks_modify _ id fun block => block.links_resize extent)
  | unlink _ _ => exact (unlinked_unlink _).forest
  | settle _ settled _ => exact (passes_settle settled).forest

/-- **A board that can come up is a forest, and stays one while it is settled.** For
any range, settling gives a board, and everything it passes through on the way there
is a forest. -/
theorem Reachable.forest_throughout (h : Reachable b) : b.Forest ∧ ∀ range : Float32,
    (∃ s report, b.settle range = .ok (s, report) ∧ Passes range b s) ∧
      ∀ m, Passes range b m → m.Forest := by
  refine ⟨h.forest, fun range => ⟨?_, fun m passes => passes.forest⟩⟩
  obtain ⟨s, report, settled, -, -⟩ := exists_settle (stable_true range) b trivial
  exact ⟨s, report, settled, passes_settle settled⟩

/-- So it is for two calls, the second a little below where the first one ends. -/
theorem Reachable.forest_throughout_two_calls :
    let b := (Board.empty.push ((Block.place .call .origin).recode "f")).push
      ((Block.place .call ⟨0, 55⟩).recode "g")
    b.Forest ∧ ∀ range : Float32, (∃ s report, b.settle range = .ok (s, report) ∧
      Passes range b s) ∧ ∀ m, Passes range b m → m.Forest :=
  Reachable.forest_throughout (.push .call ⟨0, 55⟩ "g" (.push .call .origin "f" .empty))

/-! ## Blocks -/

/-- All blocks of the board have a property. -/
def All (P : Block → Prop) (b : Board) : Prop := ∀ id block, b.get? id = some block → P block

/-- **A property that the operations keep block by block.** -/
structure Lasting (P : Block → Prop) : Prop where
  /-- A fresh block has it. -/
  place : ∀ kind origin, P (Block.place kind origin)
  /-- A new text keeps it. -/
  recode : ∀ {block} code, P block → P (block.recode code)
  /-- A displacement keeps it. -/
  translate : ∀ {block} delta, P block → P (block.translate delta)
  /-- Setting the start keeps it. -/
  pin : ∀ {block} target, P block → P (block.pin target)
  /-- A new bar keeps it. -/
  resize : ∀ {block} extent, P block → P (block.resize extent)
  /-- New links keep it. -/
  withLinks : ∀ {block} links, P block → P (block.withLinks links)

section All

variable {P : Block → Prop}

theorem All.modify (h : b.All P) (id : BlockId) {f : Block → Block}
    (keeps : ∀ block, P block → P (f block)) : (b.modify id f).All P := by
  intro other block found
  rw [get?_modify] at found
  split at found
  · obtain ⟨old, there, rfl⟩ := Option.map_eq_some_iff.mp found
    exact keeps old (h other old there)
  · exact h other block found

theorem All.unlink (h : b.All P) (lasting : Lasting P) : b.unlink.All P := by
  intro id block found
  rw [Board.unlink, get?_map] at found
  obtain ⟨old, there, rfl⟩ := Option.map_eq_some_iff.mp found
  exact lasting.withLinks .none (h id old there)

theorem All.push (h : b.All P) {block : Block} (fresh : P block) : (b.push block).All P := by
  intro id other found
  rw [get?_push] at found
  split at found
  · exact Option.some.inj found ▸ fresh
  · exact h id other found

theorem All.carry (h : b.All P) (lasting : Lasting P) (id : BlockId) (delta : Point) :
    (b.carry id delta).All P :=
  carry_induction id delta h fun _ member hc => hc.modify member fun _ => lasting.translate delta

theorem All.snap (h : b.All P) (lasting : Lasting P) (id : BlockId) (target : Point) :
    (b.snap id target).All P := by
  unfold Board.snap
  split
  · exact h
  · exact (h.carry lasting id _).modify id fun _ => lasting.pin target

/-- **A lasting property of all blocks is kept by settling.** -/
theorem stable_all (lasting : Lasting P) (range : Float32) : Stable range (All P) where
  attach := fun {b host guest slot spot} _ h _ => by
    exact ((h.snap lasting guest spot).modify host fun _ => lasting.withLinks _).modify guest
      fun _ => lasting.withLinks _
  refit := fun {b nest block extent} _ h _ _ => by
    have resized := h.modify nest fun _ => lasting.resize extent
    unfold Board.refit
    split
    · exact resized
    · exact resized.snap lasting _ _

/-- **All blocks of a board that can come up have what lasts.** -/
theorem Reachable.all (h : Reachable b) (lasting : Lasting P) : b.All P := by
  induction h with
  | empty => exact fun id block found => absurd found nofun
  | push kind origin code _ ih => exact ih.push (lasting.recode code (lasting.place kind origin))
  | recode id code _ ih => exact ih.modify id fun _ => lasting.recode code
  | translate id delta _ ih => exact ih.modify id fun _ => lasting.translate delta
  | carry id delta _ ih => exact ih.carry lasting id delta
  | snap id target _ ih => exact ih.snap lasting id target
  | resize id extent _ ih => exact ih.modify id fun _ => lasting.resize extent
  | unlink _ ih => exact ih.unlink lasting
  | @settle b s range report _ settled ih =>
    exact (of_settle (stable_all lasting range) (ih.unlink lasting) settled).2

end All

end Board

end SnapBlocks
