import SnapBlocks.Proofs.Faultless
import SnapBlocks.Proofs.Subtree

/-!
# Depth, link by link

The depth of a block is counted on the way upward, which on a forest is over before the
number of steps runs out. So it is known from the depth of the holder: one more in the
body slot, and the same in the two others. `Board.level` is the depth as a number; on a
forest there always is one. All blocks in the body of a nest lie at one level, right below that
of the nest.
-/

namespace SnapBlocks.Board

variable {b : Board} {id host guest : BlockId} {slot : Slot}

/-- The number of bodies around a block can be counted. -/
theorem Forest.exists_depthWithin (hb : b.Forest) (steps : Nat) (id : BlockId) :
    ∃ depth, b.depthWithin steps id = .ok depth := by
  induction steps generalizing id with
  | zero => exact ⟨0, rfl⟩
  | succ steps ih =>
    rw [depthWithin]
    split
    · exact ⟨0, rfl⟩
    · rename_i host holds
      obtain ⟨owner, found⟩ := exists_get? (hb.back_lt holds)
      obtain ⟨above, counted⟩ := ih host
      rw [fetch_eq_ok_iff.mpr found, counted]
      dsimp only [bind, Except.bind]
      split <;> exact ⟨_, rfl⟩

/-- The number of bodies around a block, and zero where it cannot be counted. -/
def level (b : Board) (id : BlockId) : Nat := (b.depth id).toOption.getD 0

/-- **On a forest the depth of every block can be counted.** -/
theorem Forest.depth_eq_level (hb : b.Forest) (id : BlockId) : b.depth id = .ok (b.level id) := by
  obtain ⟨depth, counted⟩ := hb.exists_depthWithin (b.size + 1) id
  rw [level, Board.depth, counted]
  rfl

theorem depthWithin_succ {owner : Block} (holds : b.back? guest = some host)
    (found : b.get? host = some owner) (steps : Nat) :
    b.depthWithin (steps + 1) guest = (b.depthWithin steps host).map
      fun above => if owner.links.body = some guest then above + 1 else above := by
  rw [depthWithin, holds]
  show (b.fetch host >>= _) = _
  rw [fetch_eq_ok_iff.mpr found]
  cases b.depthWithin steps host <;> rfl

theorem depthWithin_eq_zero (free : b.back? id = none) (steps : Nat) :
    b.depthWithin steps id = .ok 0 := by
  cases steps with
  | zero => rfl
  | succ steps => rw [depthWithin, free]

/-- Steps beyond the last ancestor count nothing. -/
theorem Forest.depthWithin_stable (hb : b.Forest) {steps : Nat}
    (enough : (b.ancestors id).length ≤ steps) :
    b.depthWithin (steps + 1) id = b.depthWithin steps id := by
  induction steps generalizing id with
  | zero =>
    have free : b.back? id = none := by
      by_contra held
      obtain ⟨host, holds⟩ := Option.ne_none_iff_exists'.mp held
      have := hb.length_ancestors_of_back? holds
      omega
    rw [depthWithin_eq_zero free, depthWithin_eq_zero free]
  | succ steps ih =>
    cases holds : b.back? id with
    | none => rw [depthWithin_eq_zero holds, depthWithin_eq_zero holds]
    | some host =>
      obtain ⟨owner, found⟩ := exists_get? (hb.back_lt holds)
      have climbed := hb.length_ancestors_of_back? holds
      rw [depthWithin_succ holds found, depthWithin_succ holds found, ih (by omega)]

/-- **A block in the body of another lies one level deeper, and one in another slot at the
same level.** -/
theorem Forest.level_of_held? (hb : b.Forest) (link : b.held? host slot = some guest) :
    b.level guest = if slot = .body then b.level host + 1 else b.level host := by
  have holds := hb.back_of_held link
  have lt := hb.back_lt holds
  obtain ⟨owner, found⟩ := exists_get? lt
  have in_body : owner.links.body = some guest ↔ slot = .body := by
    rw [show owner.links.body = b.held? host .body from (held?_of_get? found .body).symm]
    refine ⟨fun body => (hb.held_inj link body).2, ?_⟩
    rintro rfl
    exact link
  have counted := hb.depth_eq_level host
  have fewer := hb.length_ancestors_lt lt
  rw [Board.depth, hb.depthWithin_stable (by omega)] at counted
  have counted_guest := hb.depth_eq_level guest
  rw [Board.depth, depthWithin_succ holds found, counted] at counted_guest
  simp only [in_body] at counted_guest
  exact (Except.ok.inj counted_guest).symm

/-- All blocks of a chain lie at the level of its first one. -/
theorem Forest.level_of_mem_chainWithin (hb : b.Forest) {fuel : Nat} {first : BlockId}
    {ids : List BlockId} (listed : b.chainWithin fuel (some first) = .ok ids) (mem : id ∈ ids) :
    b.level id = b.level first := by
  induction fuel generalizing first ids with
  | zero => cases listed
  | succ fuel ih =>
    rw [chainWithin_succ] at listed
    obtain ⟨rest, more, rfl⟩ := map_eq_ok listed
    rcases List.mem_cons.mp mem with rfl | mem
    · rfl
    cases next : b.held? first .next with
    | none =>
      rw [next] at more
      cases fuel <;> cases more <;> cases mem
    | some follower =>
      rw [next] at more
      rw [ih more mem, hb.level_of_held? next, if_neg nofun]

/-- **The blocks in the body of a nest lie one level deeper than the nest.** -/
theorem Forest.level_of_mem_interior (hb : b.Forest) {nest : BlockId} {ids : List BlockId}
    (listed : b.interior nest = .ok ids) (mem : id ∈ ids) : b.level id = b.level nest + 1 := by
  rw [interior, chain] at listed
  cases first : b.held? nest .body with
  | none =>
    rw [first] at listed
    cases listed
    cases mem
  | some top =>
    rw [first] at listed
    rw [hb.level_of_mem_chainWithin listed mem, hb.level_of_held? first, if_pos rfl]

/-- Nothing in a subtree lies less deep than the first block of it. -/
theorem Forest.level_le_of_mem_subtree (hb : b.Forest) {top : BlockId}
    (mem : id ∈ b.subtree top) : b.level top ≤ b.level id := by
  obtain ⟨-, -, r, r_mem, reach⟩ := hb.of_mem_visit mem
  obtain rfl : r = top := List.mem_singleton.mp r_mem
  clear mem
  induction reach with
  | refl => exact le_rfl
  | tail _ holds ih =>
    obtain ⟨slot, link, -⟩ := hb.slot_unique holds
    rw [hb.level_of_held? link]
    split <;> omega

end SnapBlocks.Board
