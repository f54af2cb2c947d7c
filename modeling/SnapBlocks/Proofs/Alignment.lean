import SnapBlocks.Proofs.Passage

/-!
# Held blocks lie on their slots

On a settled board every held block starts exactly where the slot that holds it
lies, bit for bit. Rounding does no harm to this: a held block and its holder are in
the same subtrees, except for that of the held block itself, so a snap moves both ends
of a link by the same additions or leaves both alone. The two ends are moved apart by
two steps only, a snap of the held block and a new bar of its holder, and after either
of them the start of the held block is set anew.
-/

namespace SnapBlocks.Board

variable {b c s : Board} {range : Float32} {host guest id nest : BlockId} {slot : Slot}
  {block : Block} {extent : Float32}

/-- A block starts where a slot lies. -/
def LiesOn (b : Board) (guest host : BlockId) (slot : Slot) : Prop :=
  ∃ spot, b.spot? host slot = some spot ∧ b.start? guest = some spot

/-- **Every held block starts where the slot that holds it lies.** -/
def Aligned (b : Board) : Prop :=
  ∀ host slot guest, b.held? host slot = some guest → b.LiesOn guest host slot

theorem LiesOn.start?_eq {spot : Point} (lies : b.LiesOn guest host slot)
    (at_spot : b.spot? host slot = some spot) : b.start? guest = some spot := by
  obtain ⟨other, at_other, starts⟩ := lies
  rw [starts, ← at_other, at_spot]

theorem Unlinked.aligned (h : b.Unlinked) : b.Aligned := by
  intro host slot guest held
  rw [h.held?] at held
  cases held

/-! ## Starts and slots after a change -/

/-- A change that leaves the slots of a block alone moves no slot. -/
theorem spot?_modify (b : Board) (id : BlockId) {f : Block → Block} {slot : Slot}
    (keeps : ∀ block, (f block).spot? slot = block.spot? slot) (other : BlockId) :
    (b.modify id f).spot? other slot = b.spot? other slot :=
  bind_get?_modify b id keeps other

theorem spot?_link (b : Board) (host guest : BlockId) (slot : Slot) (id : BlockId) (other : Slot) :
    (b.link host guest slot).spot? id other = b.spot? id other := by
  rw [link, spot?_modify _ _ fun block => by cases other <;> rfl,
    spot?_modify _ _ fun block => by cases other <;> rfl]

theorem start?_link (b : Board) (host guest : BlockId) (slot : Slot) (id : BlockId) :
    (b.link host guest slot).start? id = b.start? id :=
  map_get?_link b host guest slot (fun _ _ => rfl) id

section Move

variable (hb : b.Forest)

include hb

/-- The blocks of a carried subtree start elsewhere by the displacement. -/
theorem Forest.start?_carry (id : BlockId) (delta : Point) (member : BlockId) :
    (b.carry id delta).start? member = if member ∈ b.subtree id
      then (b.start? member).map (·.shift delta) else b.start? member := by
  rw [start?, hb.get?_carry]
  split
  · rw [start?, Option.map_map, Option.map_map]
    exact congrArg (Option.map · _) (funext fun other => other.start_shift delta)
  · rfl

/-- The slots of a carried subtree lie elsewhere by the displacement. -/
theorem Forest.spot?_carry (id : BlockId) (delta : Point) (member : BlockId) (slot : Slot) :
    (b.carry id delta).spot? member slot = if member ∈ b.subtree id
      then (b.spot? member slot).map (·.shift delta) else b.spot? member slot := by
  rw [spot?, hb.get?_carry]
  split
  · rw [spot?, Option.bind_map, Option.map_bind]
    exact congrArg _ (funext fun other => other.spot?_shift delta slot)
  · rfl

/-- **Carrying the subtree of another block keeps a held block on its slot**: the two ends of
the link are moved together or not at all. -/
theorem Forest.liesOn_carry (id : BlockId) (delta : Point) (back : b.back? guest = some host)
    (ne : guest ≠ id) (lies : b.LiesOn guest host slot) :
    (b.carry id delta).LiesOn guest host slot := by
  by_cases lt : id < b.size
  · obtain ⟨spot, at_spot, starts⟩ := lies
    have together := hb.mem_subtree_iff_of_back? lt back ne
    rw [LiesOn, hb.spot?_carry, hb.start?_carry, at_spot, starts]
    by_cases inside : host ∈ b.subtree id
    · rw [if_pos inside, if_pos (together.mpr inside)]
      exact ⟨_, rfl, rfl⟩
    · rw [if_neg inside, if_neg fun mem => inside (together.mp mem)]
      exact ⟨spot, rfl, rfl⟩
  · rwa [carry_of_size_le (Nat.not_lt.mp lt)]

/-- A snapped block starts at the target. -/
theorem Forest.start?_snap_self (lt : id < b.size) (target : Point) :
    (b.snap id target).start? id = some target := by
  obtain ⟨block, found⟩ := exists_get? lt
  rw [start?, hb.get?_snap_self found]
  rfl

/-- The other blocks of a snapped subtree start elsewhere by one displacement. -/
theorem Forest.start?_snap_of_ne (found : b.get? id = some block) (target : Point)
    {member : BlockId} (ne : member ≠ id) :
    (b.snap id target).start? member = if member ∈ b.subtree id
      then (b.start? member).map (·.shift (target - block.start)) else b.start? member := by
  rw [snap_of_get? found, start?, get?_modify, if_neg ne.symm]
  exact hb.start?_carry id _ member

/-- The slots of a snapped subtree lie elsewhere by the same displacement. -/
theorem Forest.spot?_snap (found : b.get? id = some block) (target : Point) (member : BlockId)
    (slot : Slot) :
    (b.snap id target).spot? member slot = if member ∈ b.subtree id
      then (b.spot? member slot).map (·.shift (target - block.start)) else b.spot? member slot := by
  rw [snap_of_get? found, spot?_modify _ _ fun other => other.spot?_pin target slot]
  exact hb.spot?_carry id _ member slot

/-- **Snapping another block keeps a held block on its slot.** -/
theorem Forest.liesOn_snap (lt : id < b.size) (target : Point) (back : b.back? guest = some host)
    (ne : guest ≠ id) (lies : b.LiesOn guest host slot) :
    (b.snap id target).LiesOn guest host slot := by
  obtain ⟨block, found⟩ := exists_get? lt
  obtain ⟨spot, at_spot, starts⟩ := hb.liesOn_carry id (target - block.start) back ne lies
  refine ⟨spot, ?_, ?_⟩
  · rw [snap_of_get? found, spot?_modify _ _ fun other => other.spot?_pin target slot, at_spot]
  · rw [snap_of_get? found, start?, get?_modify, if_neg ne.symm]
    exact starts

end Move

/-! ## Every step keeps the links exact -/

/-- The host of a guest that fits is not moved by snapping the guest. -/
theorem Fits.host_not_mem_subtree {spot : Point} (h : b.Fits range host guest slot spot)
    (hb : b.Forest) : host ∉ b.subtree guest :=
  hb.not_mem_subtree h.ne fun above => by
    rw [← hb.isAbove_iff, h.below] at above
    cases above

/-- **Attaching a guest that fits** puts it on its slot, and moves no other held block
off its own. -/
theorem Fits.aligned_attach {spot : Point} (h : b.Fits range host guest slot spot) (hb : b.Forest)
    (aligned : b.Aligned) : (b.attach host guest slot spot).Aligned := by
  intro other_host other_slot other held
  rw [h.held?_attach] at held
  rw [LiesOn, attach, spot?_link, start?_link]
  split at held
  · rename_i at_slot
    obtain ⟨rfl, rfl⟩ := at_slot
    cases held
    obtain ⟨block, found, -⟩ := h.guest_fits
    refine ⟨spot, ?_, hb.start?_snap_self h.guest_lt spot⟩
    rw [hb.spot?_snap found, if_neg (h.host_not_mem_subtree hb), h.spot?_eq]
  -- a link of before is not that of the guest, which was free
  · have back := hb.back_of_held held
    have ne : other ≠ guest := by
      rintro rfl
      rw [h.free] at back
      cases back
    exact hb.liesOn_snap h.guest_lt spot back ne (aligned _ _ _ held)

/-- A new bar moves no start, and no slot but the one below it. -/
theorem LiesOn.resize (lies : b.LiesOn guest host slot)
    (elsewhere : ¬ (host = nest ∧ slot = .next)) (extent : Float32) :
    (b.modify nest (·.resize extent)).LiesOn guest host slot := by
  obtain ⟨spot, at_spot, starts⟩ := lies
  have starts' := map_get?_modify b nest (fun block => block.start_resize extent) guest
  refine ⟨spot, ?_, starts'.trans starts⟩
  rw [← at_spot]
  by_cases at_nest : host = nest
  · exact spot?_modify b nest
      (fun block => block.spot?_resize extent fun next => elsewhere ⟨at_nest, next⟩) host
  · rw [spot?, get?_modify, if_neg (Ne.symm at_nest), spot?]

/-- **Fitting a nest** puts what follows it on its new finish, and moves no other held
block off its slot. -/
theorem Forest.aligned_refit (hb : b.Forest) (aligned : b.Aligned)
    (found : b.get? nest = some block) (extent : Float32) :
    (b.refit nest block extent).Aligned := by
  have same : b.SameLinks (b.modify nest (·.resize extent)) :=
    (sameRoles_modify b nest fun block => block.role_resize extent).sameLinks
  have hc := hb.congr same
  have there : (b.modify nest (·.resize extent)).get? nest = some (block.resize extent) := by
    rw [get?_modify, if_pos rfl, found]
    rfl
  have held_next : b.held? nest .next = block.links.next := held?_of_get? found .next
  intro host slot guest held
  rw [← (sameRoles_refit b nest block extent).sameLinks.held?] at held
  unfold refit
  split
  · rename_i nothing
    refine (aligned _ _ _ held).resize ?_ extent
    rintro ⟨rfl, rfl⟩
    rw [held_next, nothing] at held
    cases held
  · rename_i follower follows
    rw [follows] at held_next
    have lt : follower < (b.modify nest (·.resize extent)).size := by
      rw [← same.size_eq]
      exact hb.held_lt held_next
    by_cases below : host = nest ∧ slot = .next
    -- the follower has just been snapped to the finish, which the snap does not move
    · obtain ⟨rfl, rfl⟩ := below
      obtain rfl : follower = guest := Option.some.inj (held_next.symm.trans held)
      obtain ⟨spot, at_spot, -⟩ := aligned _ _ _ held
      have owns : ¬ block.kind.isInline = true := by
        intro is_inline
        rw [spot?, found, Option.bind_some, Block.spot?, if_pos is_inline] at at_spot
        cases at_spot
      have back := hb.back_of_held held
      rw [same.back?] at back
      have outside := hc.holder_not_mem_subtree back
      obtain ⟨other, other_found⟩ := exists_get? lt
      refine ⟨_, ?_, hc.start?_snap_self lt _⟩
      rw [hc.spot?_snap other_found, if_neg outside, spot?, there, Option.bind_some, Block.spot?,
        Block.kind_resize, if_neg owns]
    · have ne : guest ≠ follower := by
        rintro rfl
        exact below (hb.held_inj held held_next)
      have back := hb.back_of_held held
      rw [same.back?] at back
      exact hc.liesOn_snap lt _ back ne ((aligned _ _ _ held).resize below extent)

/-- Matching and fitting keep every held block on its slot. -/
theorem stable_aligned (range : Float32) : Stable range Aligned where
  attach := fun hb aligned fits => fits.aligned_attach hb aligned
  refit := fun {_ _ _ extent} hb aligned found _ => hb.aligned_refit aligned found extent

/-- **On a settled board every held block lies on its slot**, whatever the board was and
for any range: its start and the position of the slot are the same, bit for bit. -/
theorem exists_settle_aligned (b : Board) (range : Float32) :
    ∃ s report, b.settle range = .ok (s, report) ∧ s.Aligned := by
  obtain ⟨s, report, settled, -, aligned⟩ :=
    exists_settle (stable_aligned range) b b.unlinked_unlink.aligned
  exact ⟨s, report, settled, aligned⟩

/-- Two calls, a conditional that they belong into, and a conditional behind it with a call of
its own. The calls come first, so that the second hangs on the first when that is snapped
into the body; and the last call is in its body when the first conditional is fitted. -/
def stacked : Board :=
  ((((empty.push ((Block.place .call ⟨20, 52⟩).recode "go")).push
    ((Block.place .call ⟨25, 98⟩).recode "on")).push
      ((Block.place (.nest .conditional) .origin).recode "if")).push
        ((Block.place (.nest .conditional) ⟨0, 115⟩).recode "if")).push
          ((Block.place .call ⟨12, 172⟩).recode "end")

/-- What was attached first, what was snapped anew by the fitting and what was carried with
it start on their slots. -/
theorem exists_settle_aligned_stacked : ∃ s report,
    stacked.settle standardRange = .ok (s, report) ∧
      s.held? 0 .next = some 1 ∧ s.spot? 0 .next = some ⟨16.666666, 100⟩ ∧
      s.start? 1 = some ⟨16.666666, 100⟩ ∧
      s.held? 2 .next = some 3 ∧ s.spot? 2 .next = some ⟨0, 216.66667⟩ ∧
      s.start? 3 = some ⟨0, 216.66667⟩ ∧
      s.held? 3 .body = some 4 ∧ s.spot? 3 .body = some ⟨16.666666, 266.66666⟩ ∧
      s.start? 4 = some ⟨16.666666, 266.66666⟩ := by
  obtain ⟨s, report, settled, aligned⟩ := exists_settle_aligned stacked standardRange
  have run : (stacked.settle standardRange).toOption.all (fun settled => decide
      (settled.1.held? 0 .next = some 1 ∧ settled.1.spot? 0 .next = some ⟨16.666666, 100⟩ ∧
        settled.1.held? 2 .next = some 3 ∧ settled.1.spot? 2 .next = some ⟨0, 216.66667⟩ ∧
        settled.1.held? 3 .body = some 4 ∧
        settled.1.spot? 3 .body = some ⟨16.666666, 266.66666⟩)) = true := by
    decide +kernel
  rw [settled] at run
  obtain ⟨first, first_spot, second, second_spot, third, third_spot⟩ := of_decide_eq_true run
  exact ⟨s, report, settled, first, first_spot, (aligned _ _ _ first).start?_eq first_spot,
    second, second_spot, (aligned _ _ _ second).start?_eq second_spot,
    third, third_spot, (aligned _ _ _ third).start?_eq third_spot⟩

end SnapBlocks.Board
