import SnapBlocks.Proofs.Alignment
import SnapBlocks.Proofs.Lineage

/-!
# What a move changes

Moving a block means moving its subtree, block by block, along a list that a traversal with a
stack comes up with. On a forest the list has each block of the subtree once, so the outcome
can be said of the ancestors alone, without the traversal: a block is displaced, once and with
all of its points (`Block.Displaced`), if it is the one that is moved or lies under it, and
else it stays as it is (`Reachable.moves_subtree_once`).

`Board.carry` moves by a displacement and `Board.snap` to a point. The second is the first
with the start set to the point afterwards; the start of a block is no end of a link to what
the block holds, so the links inside of the subtree are as exact as they were.
-/

namespace SnapBlocks

namespace Block

/-! ## Bars -/

/-- The length of the bar, if the block has one. -/
def extent? (block : Block) : Option Float32 := block.mouth.map (·.extent)

@[simp] theorem extent?_translate (block : Block) (delta : Point) :
    (block.translate delta).extent? = block.extent? := by
  simp [extent?, Function.comp_def]

@[simp] theorem extent?_pin (block : Block) (target : Point) :
    (block.pin target).extent? = block.extent? := rfl

/-! ## Displaced blocks -/

/-- **All points of a block have been displaced**: to the start, the finish, the place of an
argument, the place of the body and the top of the bar the displacement has been added, and
nothing else about the block has changed. -/
structure Displaced (block moved : Block) (delta : Point) : Prop where
  /-- The start has been displaced. -/
  start : moved.start = block.start + delta
  /-- So has the finish. -/
  finish : moved.finish = block.finish + delta
  /-- So has the place of an argument, if there is one. -/
  socket : moved.socket = block.socket.map (· + delta)
  /-- So have the place of the body and the top of the bar, if the block is a nest. The bar is
  as long as before. -/
  mouth : moved.mouth =
    block.mouth.map fun m => ⟨m.form, m.entry + delta, m.bar + delta, m.extent⟩
  /-- The block is of the same kind. -/
  kind : moved.kind = block.kind
  /-- It has the same text. -/
  code : moved.code = block.code
  /-- It is linked to the same blocks. -/
  links : moved.links = block.links

theorem displaced_translate (block : Block) (delta : Point) :
    block.Displaced (block.translate delta) delta where
  start := block.start_translate delta
  finish := block.finish_translate delta
  socket := block.socket_translate delta
  mouth := block.mouth_translate delta
  kind := block.kind_translate delta
  code := block.code_translate delta
  links := block.links_translate delta

/-- What a block becomes when it is carried: displaced, or the same if the displacement is
zero. -/
def Carried (block moved : Block) (delta : Point) : Prop :=
  (delta.isZero = false → block.Displaced moved delta) ∧ (delta.isZero = true → moved = block)

theorem carried_shift (block : Block) (delta : Point) :
    block.Carried (block.shift delta) delta := by
  refine ⟨fun not_zero => ?_, fun zero => if_pos zero⟩
  rw [shift, if_neg (by simp [not_zero])]
  exact block.displaced_translate delta

end Block

namespace Board

variable {b c : Board} {id member : BlockId} {block : Block} {slot : Slot}

/-- The length of the bar of a block, if there is such a block and it has one. -/
def extent? (b : Board) (id : BlockId) : Option Float32 := (b.get? id).bind (·.extent?)

/-- A change that leaves bars alone changes no bar. -/
theorem extent?_modify (b : Board) (id : BlockId) {f : Block → Block}
    (keeps : ∀ block, (f block).extent? = block.extent?) (other : BlockId) :
    (b.modify id f).extent? other = b.extent? other :=
  bind_get?_modify b id keeps other

@[simp] theorem extent?_carry (b : Board) (id : BlockId) (delta : Point) (other : BlockId) :
    (b.carry id delta).extent? other = b.extent? other :=
  carry_induction (P := fun c => c.extent? other = b.extent? other) id delta rfl
    fun c member same => (c.extent?_modify member (fun block => block.extent?_translate delta)
      other).trans same

@[simp] theorem extent?_snap (b : Board) (id : BlockId) (target : Point) (other : BlockId) :
    (b.snap id target).extent? other = b.extent? other := by
  cases found : b.get? id with
  | none => simp [snap, found]
  | some block =>
    rw [snap_of_get? found, extent?_modify _ _ fun block => block.extent?_pin target, extent?_carry]

/-! ## What stays -/

/-- **The move of a subtree that leads from one board to the other leaves everything else as
it is**: what the blocks are, how they are linked, how long the bars are, where the blocks
outside of the subtree lie, and which of the links inside of it are exact. -/
structure MovesOnly (b c : Board) (top : BlockId) : Prop where
  /-- All blocks have the kinds, the codes and the links that they had. -/
  roles : b.SameRoles c
  /-- All bars have the length that they had. -/
  extents : ∀ id, c.extent? id = b.extent? id
  /-- What is not moved and does not lie under what is moved stays the same block. -/
  elsewhere : ∀ id, id ≠ top → b.isAbove top id = false → c.get? id = b.get? id
  /-- A held block that started on its slot still does, if both blocks are moved. -/
  exact : ∀ host slot guest, host ∈ b.subtree top → guest ∈ b.subtree top →
    b.held? host slot = some guest → b.LiesOn guest host slot → c.LiesOn guest host slot

namespace Forest

variable (hb : b.Forest)

include hb

/-- What lies neither at nor under a block is not in its subtree. -/
theorem not_mem_subtree_of_isAbove (ne : member ≠ id) (not_above : b.isAbove id member = false) :
    member ∉ b.subtree id :=
  hb.not_mem_subtree ne fun above => by
    rw [← hb.isAbove_iff, not_above] at above
    cases above

/-- **A displacement that is not zero is added once** to every point of the moved blocks. -/
theorem exists_displaced {delta : Point} (not_zero : delta.isZero = false)
    (found : b.get? member = some block) (under : member = id ∨ b.isAbove id member = true) :
    ∃ moved, (b.carry id delta).get? member = some moved ∧ block.Displaced moved delta := by
  have mem := (hb.mem_subtree_iff_of_lt (lt_of_get? found)).mpr under
  refine ⟨block.shift delta, ?_, (block.carried_shift delta).1 not_zero⟩
  rw [hb.get?_carry, if_pos mem, found]
  rfl

/-- A link inside of a subtree does not lead to its first block. -/
theorem ne_of_held_in_subtree {top host guest : BlockId} (mem : host ∈ b.subtree top)
    (held : b.held? host slot = some guest) : guest ≠ top := by
  rintro rfl
  exact hb.holder_not_mem_subtree (hb.back_of_held held) mem

theorem movesOnly_carry (id : BlockId) (delta : Point) : b.MovesOnly (b.carry id delta) id where
  roles := sameRoles_carry b id delta
  extents := extent?_carry b id delta
  elsewhere := fun _ ne not_above => by
    rw [hb.get?_carry, if_neg (hb.not_mem_subtree_of_isAbove ne not_above)]
  exact := fun _ _ _ mem _ held => hb.liesOn_carry id delta (hb.back_of_held held)
    (hb.ne_of_held_in_subtree mem held)

theorem movesOnly_snap (lt : id < b.size) (target : Point) :
    b.MovesOnly (b.snap id target) id where
  roles := sameRoles_snap b id target
  extents := extent?_snap b id target
  elsewhere := fun _ ne not_above =>
    hb.get?_snap_of_not_mem target (hb.not_mem_subtree_of_isAbove ne not_above)
  exact := fun _ _ _ mem _ held => hb.liesOn_snap lt target (hb.back_of_held held)
    (hb.ne_of_held_in_subtree mem held)

end Forest

/-! ## The main statement -/

/-- **Moving a block moves its subtree once and nothing else**, on a board that can come up.
Carrying a block by a displacement that is not zero adds it once to the start, the finish, the
place of an argument, the place of the body and the top of the bar of this block and of each
block under it, and leaves the others as they are. Carrying it by zero changes nothing at all,
nor does carrying a block that is not there. Snapping a block to a point lets it start there
exactly; its other points and all blocks under it lie where carrying it by the difference from
its old start would bring them. Neither operation changes anything else. -/
theorem Reachable.moves_subtree_once (h : Reachable b) (id : BlockId) :
    (∀ delta : Point, delta.isZero = false → ∀ member block, b.get? member = some block →
      (member = id ∨ b.isAbove id member = true →
        ∃ moved, (b.carry id delta).get? member = some moved ∧ block.Displaced moved delta) ∧
      (member ≠ id ∧ b.isAbove id member = false →
        (b.carry id delta).get? member = some block)) ∧
    (∀ delta : Point, delta.isZero = true ∨ b.size ≤ id → b.carry id delta = b) ∧
    (∀ delta : Point, b.MovesOnly (b.carry id delta) id) ∧
    ∀ block, b.get? id = some block → ∀ target : Point,
      (b.snap id target).start? id = some target ∧
      (∃ carried, (b.carry id (target - block.start)).get? id = some carried ∧
        (b.snap id target).get? id = some { carried with start := target }) ∧
      (∀ member, member ≠ id →
        (b.snap id target).get? member = (b.carry id (target - block.start)).get? member) ∧
      b.MovesOnly (b.snap id target) id := by
  have hb := h.forest
  refine ⟨fun delta not_zero member block found => ⟨hb.exists_displaced not_zero found, ?_⟩,
    ?_, hb.movesOnly_carry id, fun block found target => ?_⟩
  · rintro ⟨ne, not_above⟩
    exact ((hb.movesOnly_carry id delta).elsewhere member ne not_above).trans found
  · rintro delta (zero | unknown)
    · exact carry_of_isZero zero
    · exact carry_of_size_le unknown delta
  have lt := lt_of_get? found
  refine ⟨hb.start?_snap_self lt target, ?_, fun member ne => ?_, hb.movesOnly_snap lt target⟩
  · obtain ⟨carried, there⟩ := exists_get? ((size_carry b id (target - block.start)).symm ▸ lt)
    refine ⟨carried, there, ?_⟩
    rw [snap_of_get? found, get?_modify, if_pos rfl, there]
    rfl
  · rw [snap_of_get? found, get?_modify, if_neg ne.symm]

/-- The inner one of two settled conditionals is moved with the call in its body, which stays
attached to it, and without the class behind the outer one. -/
theorem moves_subtree_once_nested : ∃ s report inner moved deep last,
    nested.settle standardRange = .ok (s, report) ∧
      s.get? 2 = some inner ∧ s.get? 3 = some deep ∧ s.get? 5 = some last ∧
      inner.start = ⟨16.666666, 50⟩ ∧ inner.finish = ⟨16.666666, 216.66667⟩ ∧
      inner.socket = some ⟨116.666664, 50⟩ ∧
      inner.mouth = some ⟨.conditional, ⟨33.333332, 100⟩, ⟨16.666666, 100⟩, 100⟩ ∧
      (s.carry 2 ⟨7, 3⟩).get? 2 = some moved ∧
      moved.start = ⟨23.666666, 53⟩ ∧ moved.finish = ⟨23.666666, 219.66667⟩ ∧
      moved.socket = some ⟨123.666664, 53⟩ ∧
      moved.mouth = some ⟨.conditional, ⟨40.333332, 103⟩, ⟨23.666666, 103⟩, 100⟩ ∧
      deep.start = ⟨33.333332, 100⟩ ∧ (s.carry 2 ⟨7, 3⟩).start? 3 = some ⟨40.333332, 103⟩ ∧
      (s.carry 2 ⟨7, 3⟩).get? 5 = some last ∧ s.carry 2 ⟨0, -0⟩ = s ∧ s.carry 6 ⟨7, 3⟩ = s ∧
      (s.snap 2 ⟨200, 80⟩).start? 2 = some ⟨200, 80⟩ ∧ (s.snap 2 ⟨200, 80⟩).LiesOn 3 2 .body := by
  have run : (nested.settle standardRange).toOption.any (fun settled =>
      decide (settled.1.held? 2 .body = some 3 ∧ settled.1.isAbove 2 3 = true ∧
        settled.1.isAbove 2 5 = false ∧ settled.1.subtree 2 = [2, 3, 4] ∧ settled.1.size = 6 ∧
        settled.1.start? 3 = some ⟨33.333332, 100⟩ ∧
        (settled.1.get? 2).any (fun inner => decide (inner.start = ⟨16.666666, 50⟩ ∧
          inner.finish = ⟨16.666666, 216.66667⟩ ∧ inner.socket = some ⟨116.666664, 50⟩ ∧
          inner.mouth = some ⟨.conditional, ⟨33.333332, 100⟩, ⟨16.666666, 100⟩, 100⟩)) = true)) =
      true := by
    decide +kernel
  obtain ⟨⟨s, report⟩, settled, facts⟩ := exists_ok_of_any run
  obtain ⟨held, under, apart, listed, size_eq, deep_at, inner_at⟩ := of_decide_eq_true facts
  dsimp only at held under apart listed size_eq deep_at inner_at
  obtain ⟨inner, inner_found, points⟩ := (Option.any_eq_true ..).mp inner_at
  obtain ⟨start, finish, socket, mouth⟩ := of_decide_eq_true points
  obtain ⟨deep, deep_found, deep_start⟩ := Option.map_eq_some_iff.mp deep_at
  obtain ⟨last, last_found⟩ : ∃ last, s.get? 5 = some last := exists_get? (size_eq ▸ by decide)
  obtain ⟨-, aligned⟩ :=
    of_settle (stable_aligned standardRange) nested.unlinked_unlink.aligned settled
  obtain ⟨moves, unmoved, -, snapped⟩ :=
    Reachable.moves_subtree_once (.settle reachable_nested settled) 2
  obtain ⟨-, unknown, -⟩ := Reachable.moves_subtree_once (.settle reachable_nested settled) 6
  obtain ⟨starts, -, -, only⟩ := snapped inner inner_found ⟨200, 80⟩
  -- where the two blocks lie afterwards is not computed, but follows from where they lay
  obtain ⟨moved, moved_found, displaced⟩ :=
    (moves ⟨7, 3⟩ (by decide) 2 inner inner_found).1 (.inl rfl)
  obtain ⟨deeper, deeper_found, deep_displaced⟩ :=
    (moves ⟨7, 3⟩ (by decide) 3 deep deep_found).1 (.inr under)
  refine ⟨s, report, inner, moved, deep, last, settled, inner_found, deep_found, last_found, start,
    finish, socket, mouth, moved_found, ?_, ?_, ?_, ?_, deep_start, ?_,
    (moves ⟨7, 3⟩ (by decide) 5 last last_found).2 ⟨by decide, apart⟩,
    unmoved _ (.inl (by decide)), unknown _ (.inr size_eq.le), starts,
    only.exact 2 .body 3 (listed ▸ by decide) (listed ▸ by decide) held (aligned _ _ _ held)⟩
  · rw [displaced.start, start]
    decide +kernel
  · rw [displaced.finish, finish]
    decide +kernel
  · rw [displaced.socket, socket]
    decide +kernel
  · rw [displaced.mouth, mouth]
    decide +kernel
  · rw [start?, deeper_found, Option.map_some, deep_displaced.start, deep_start]
    decide +kernel

end Board

end SnapBlocks
