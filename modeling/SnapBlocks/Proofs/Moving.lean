import SnapBlocks.Proofs.Subtree

/-!
# Moving blocks

Carrying and snapping change where blocks lie and nothing else: kinds, codes and
links of all blocks stay, which is `Board.SameRoles`. On a forest it can also be
said, block by block, where everything lies afterwards. The subtree lists each of
its blocks once, so each is displaced once, and what is not in it stays.

A displacement of zero is not carried out at all, for adding a zero may change the
sign of another one. `Block.shift` is the displacement with this exception.
-/

namespace SnapBlocks

/-- The point displaced, or left alone by a displacement of zero. -/
def Point.shift (p delta : Point) : Point := if delta.isZero then p else p + delta

namespace Block

/-- What a block is, apart from where it lies: its kind, its code and its links. -/
def role (block : Block) : Kind × String × Links := (block.kind, block.code, block.links)

/-- The block displaced, or left alone by a displacement of zero. -/
def shift (block : Block) (delta : Point) : Block :=
  if delta.isZero then block else block.translate delta

@[simp] theorem role_translate (block : Block) (delta : Point) :
    (block.translate delta).role = block.role := rfl

@[simp] theorem role_pin (block : Block) (target : Point) : (block.pin target).role = block.role :=
  rfl

@[simp] theorem role_resize (block : Block) (extent : Float32) :
    (block.resize extent).role = block.role := by
  rw [role, kind_resize, code_resize, links_resize, role]

@[simp] theorem start_shift (block : Block) (delta : Point) :
    (block.shift delta).start = block.start.shift delta := by
  unfold shift Point.shift
  split <;> rfl

/-- A displaced block has the same slots, displaced. -/
theorem spot?_shift (block : Block) (delta : Point) (slot : Slot) :
    (block.shift delta).spot? slot = (block.spot? slot).map (·.shift delta) := by
  unfold shift
  split
  · rename_i zero
    have stay : (fun p : Point => p.shift delta) = fun p => p :=
      funext fun p => by rw [Point.shift, if_pos zero]
    rw [stay, Option.map_id']
  · rename_i zero
    have move : (fun p : Point => p.shift delta) = (· + delta) :=
      funext fun p => by rw [Point.shift, if_neg zero]
    rw [move]
    cases slot with
    | next =>
      rw [spot?, spot?, kind_translate]
      split <;> rfl
    | argument => rfl
    | body =>
      rw [spot?, spot?, Option.map_map, translate, Option.map_map]
      rfl

/-- The slots of a block do not depend on its start. -/
theorem spot?_pin (block : Block) (target : Point) (slot : Slot) :
    (block.pin target).spot? slot = block.spot? slot := by
  cases slot <;> rfl

/-- A new bar moves no slot but the one below the block. -/
theorem spot?_resize (block : Block) (extent : Float32) {slot : Slot} (ne : slot ≠ .next) :
    (block.resize extent).spot? slot = block.spot? slot := by
  unfold resize
  split
  · rfl
  · rename_i mouth open_side
    cases slot with
    | next => exact absurd rfl ne
    | argument => rfl
    | body =>
      rw [spot?, spot?, open_side]
      rfl

end Block

namespace Board

variable {b c : Board} {id member : BlockId} {block : Block}

/-! ## What stays when blocks move -/

/-- **The two boards have the same blocks in the same order**, which may lie elsewhere. -/
def SameRoles (b c : Board) : Prop :=
  ∀ id, (b.get? id).map Block.role = (c.get? id).map Block.role

namespace SameRoles

theorem refl (b : Board) : b.SameRoles b := fun _ => rfl

theorem trans {d : Board} (h : b.SameRoles c) (h' : c.SameRoles d) : b.SameRoles d :=
  fun id => (h id).trans (h' id)

theorem sameLinks (h : b.SameRoles c) : b.SameLinks c := fun id => by
  have := congrArg (Option.map fun role : Kind × String × Links => role.2.2) (h id)
  rw [Option.map_map, Option.map_map] at this
  exact this

end SameRoles

/-- A change to one block does not change what it leaves alone. -/
theorem map_get?_modify {α : Type} (b : Board) (id : BlockId) {f : Block → Block} {read : Block → α}
    (keeps : ∀ block, read (f block) = read block) (other : BlockId) :
    ((b.modify id f).get? other).map read = (b.get? other).map read := by
  rw [get?_modify]
  split
  · rw [Option.map_map]
    exact congrArg (Option.map · _) (funext keeps)
  · rfl

/-- The same for what not every block has. -/
theorem bind_get?_modify {α : Type} (b : Board) (id : BlockId) {f : Block → Block}
    {read : Block → Option α} (keeps : ∀ block, read (f block) = read block) (other : BlockId) :
    ((b.modify id f).get? other).bind read = (b.get? other).bind read := by
  rw [get?_modify]
  split
  · rw [Option.bind_map]
    exact congrArg _ (funext keeps)
  · rfl

/-- A link does not change what is not a matter of links. -/
theorem map_get?_link {α : Type} (b : Board) (host guest : BlockId) (slot : Slot)
    {read : Block → α} (blind : ∀ block links, read (Block.withLinks block links) = read block)
    (id : BlockId) : ((b.link host guest slot).get? id).map read = (b.get? id).map read :=
  (map_get?_modify _ guest (fun block => blind block _) id).trans
    (map_get?_modify b host (fun block => blind block _) id)

/-- Changing a block and not its links changes no links. -/
theorem sameLinks_modify (b : Board) (id : BlockId) {f : Block → Block}
    (keeps : ∀ block, (f block).links = block.links) : b.SameLinks (b.modify id f) :=
  fun other => (map_get?_modify b id keeps other).symm

theorem sameRoles_modify (b : Board) (id : BlockId) {f : Block → Block}
    (keeps : ∀ block, (f block).role = block.role) : b.SameRoles (b.modify id f) :=
  fun other => (map_get?_modify b id keeps other).symm

/-- **What displacing one block keeps, carrying a subtree keeps.** -/
theorem carry_induction {P : Board → Prop} (id : BlockId) (delta : Point) (start : P b)
    (step : ∀ c member, P c → P (c.modify member (·.translate delta))) : P (b.carry id delta) := by
  unfold carry
  split
  · exact start
  · exact List.foldlRecOn _ _ start fun c hc member _ => step c member hc

theorem sameRoles_carry (b : Board) (id : BlockId) (delta : Point) :
    b.SameRoles (b.carry id delta) :=
  carry_induction id delta (.refl b) fun c member same =>
    same.trans (sameRoles_modify c member fun block => block.role_translate delta)

theorem sameRoles_snap (b : Board) (id : BlockId) (target : Point) :
    b.SameRoles (b.snap id target) := by
  unfold snap
  split
  · exact .refl b
  · exact (sameRoles_carry b id _).trans (sameRoles_modify _ id fun block => block.role_pin target)

/-! ## Where everything lies afterwards -/

/-- Changing the blocks of a list without repetitions changes each of them once. -/
theorem get?_foldl_modify {ids : List BlockId} (nodup : ids.Nodup) (f : Block → Block) (b : Board)
    (member : BlockId) :
    (ids.foldl (fun board id => board.modify id f) b).get? member
      = if member ∈ ids then (b.get? member).map f else b.get? member := by
  induction ids generalizing b with
  | nil => rw [if_neg List.not_mem_nil]; rfl
  | cons first ids ih =>
    obtain ⟨fresh, rest⟩ := List.nodup_cons.mp nodup
    rw [List.foldl_cons, ih rest, get?_modify]
    by_cases at_first : member = first
    · subst at_first
      rw [if_neg fresh, if_pos rfl, if_pos List.mem_cons_self]
    · rw [if_neg (Ne.symm at_first)]
      simp only [List.mem_cons, at_first, false_or]

/-- **Carrying a subtree displaces each of its blocks once** and no other block. -/
theorem Forest.get?_carry (hb : b.Forest) (id : BlockId) (delta : Point) (member : BlockId) :
    (b.carry id delta).get? member
      = if member ∈ b.subtree id then (b.get? member).map (·.shift delta) else b.get? member := by
  unfold carry Block.shift
  by_cases zero : delta.isZero = true
  · simp only [zero, if_true, Option.map_id', ite_self]
  · simp only [zero]
    exact get?_foldl_modify (hb.nodup_subtree id) _ b member

/-- A subtree that is not there is not carried anywhere. -/
theorem carry_of_size_le (le : b.size ≤ id) (delta : Point) : b.carry id delta = b := by
  simp [carry, subtree_of_size_le le]

/-- Snapping a block is carrying its subtree and then setting its start. -/
theorem snap_of_get? (found : b.get? id = some block) (target : Point) :
    b.snap id target = (b.carry id (target - block.start)).modify id (·.pin target) := by
  rw [snap, found]

/-- Snapping a block displaces it like its subtree and then sets its start. -/
theorem Forest.get?_snap_self (hb : b.Forest) (found : b.get? id = some block) (target : Point) :
    (b.snap id target).get? id = some ((block.shift (target - block.start)).pin target) := by
  have first := hb.mem_subtree_self (lt_of_get? found)
  rw [snap_of_get? found, get?_modify, if_pos rfl, hb.get?_carry, if_pos first, found]
  rfl

/-- Snapping a block displaces the rest of its subtree and nothing else. -/
theorem Forest.get?_snap_of_ne (hb : b.Forest) (found : b.get? id = some block) (target : Point)
    (ne : member ≠ id) :
    (b.snap id target).get? member
      = if member ∈ b.subtree id then (b.get? member).map (·.shift (target - block.start))
        else b.get? member := by
  rw [snap_of_get? found, get?_modify, if_neg ne.symm, hb.get?_carry]

/-- What is not in the subtree of a snapped block stays as it is. -/
theorem Forest.get?_snap_of_not_mem (hb : b.Forest) (target : Point)
    (outside : member ∉ b.subtree id) : (b.snap id target).get? member = b.get? member := by
  cases found : b.get? id with
  | none => rw [snap, found]
  | some block =>
    have ne : member ≠ id := by
      rintro rfl
      exact outside (hb.mem_subtree_self (lt_of_get? found))
    rw [hb.get?_snap_of_ne found target ne, if_neg outside]

end Board

end SnapBlocks
