import SnapBlocks.Proofs.Carrying
import SnapBlocks.Proofs.Resting

/-!
# What follows a nest goes with its finish

When a nest is fitted its finish moves, and what follows it is snapped to the new finish. A
snap reckons with where a block starts, and knows nothing of how far the finish has moved. But
on the boards that settling passes through every held block starts where its slot lies, so the
follower starts at the old finish, and the difference from there is the displacement of the
finish, bit for bit. The whole subtree of the follower is displaced by this much, and nothing
else on the board but the bar and the finish of the nest changes (`Board.Refits`).
-/

namespace SnapBlocks

variable {block : Block} {mouth : Mouth}

/-- A new bar changes the length of the bar and the finish, and nothing else. -/
theorem Block.resize_of_mouth (open_side : block.mouth = some mouth) (extent : Float32) :
    block.resize extent =
      { block with mouth := some { mouth with extent }, finish := (mouth.resize extent).finish } := by
  simp [resize, open_side, Mouth.resize]

/-- The displacement of the finish is the difference of the new one from the old one. -/
theorem Block.growth_of_mouth (open_side : block.mouth = some mouth) (extent : Float32) :
    block.growth extent = (block.resize extent).finish - block.finish := by
  rw [resize_of_mouth open_side, growth, open_side]

namespace Board

variable {b c s : Board} {range : Float32} {id nest follower : BlockId} {first : Block}
  {extent : Float32}

/-- **A nest has got another bar, and what follows it has gone with its finish.** `block` is
the nest before and `fitted` the nest afterwards, and `extent` is the length of its new bar. -/
structure Refits (b c : Board) (nest : BlockId) (block fitted : Block) (extent : Float32) :
    Prop where
  /-- Of the nest only the length of the bar and the finish have changed. -/
  at_nest : c.get? nest = some fitted ∧ ∃ mouth, block.mouth = some mouth ∧ fitted =
    { block with mouth := some { mouth with extent }, finish := (mouth.resize extent).finish }
  /-- Its finish has been displaced by the difference of the new one from the old one. -/
  displacement : block.growth extent = fitted.finish - block.finish
  /-- The block that follows the nest starts at the new finish. Its other points have been
  displaced as the finish has, and not at all if this displacement is zero. -/
  at_follower : ∀ follower first, block.links.next = some follower → b.get? follower = some first →
    ∃ moved, first.Carried moved (block.growth extent) ∧
      c.get? follower = some { moved with start := fitted.finish }
  /-- So have all points of the blocks under it, their starts as well. -/
  below_follower : ∀ follower id other, block.links.next = some follower →
    b.isAbove follower id = true → b.get? id = some other →
      ∃ moved, other.Carried moved (block.growth extent) ∧ c.get? id = some moved
  /-- Every block but the nest, what follows it and what lies under that stays the same. -/
  elsewhere : ∀ id, id ≠ nest → (∀ follower, block.links.next = some follower →
    id ≠ follower ∧ b.isAbove follower id = false) → c.get? id = b.get? id
  /-- The argument and the body of the nest stay the same, with all that lies under them. -/
  inside : ∀ slot guest id, slot ≠ .next → b.held? nest slot = some guest →
    id = guest ∨ b.isAbove guest id = true → c.get? id = b.get? id
  /-- No kind, no code and no link changes. -/
  roles : b.SameRoles c

/-! ## One fitting -/

/-- On an aligned board what follows a block starts at its finish. -/
theorem Aligned.start_eq_finish (aligned : b.Aligned) (found : b.get? nest = some block)
    (follows : block.links.next = some follower) (there : b.get? follower = some first) :
    first.start = block.finish := by
  obtain ⟨spot, at_spot, starts⟩ :=
    aligned nest .next follower ((held?_of_get? found .next).trans follows)
  rw [start?, there] at starts
  rw [spot?, found, Option.bind_some, Block.spot?] at at_spot
  split at at_spot
  · cases at_spot
  · exact (Option.some.inj starts).trans (Option.some.inj at_spot).symm

namespace Forest

variable (hb : b.Forest)

include hb

/-- What follows a nest is not the nest, nor above it. -/
theorem nest_not_mem_subtree (found : b.get? nest = some block)
    (follows : block.links.next = some follower) : nest ∉ b.subtree follower :=
  hb.holder_not_mem_subtree (hb.back_of_held ((held?_of_get? found .next).trans follows))

/-- What lies in another slot of the nest, or under that, is not in the subtree of what
follows it. -/
theorem not_mem_subtree_of_slot {slot : Slot} {guest : BlockId}
    (found : b.get? nest = some block) (follows : block.links.next = some follower)
    (ne : slot ≠ .next) (held : b.held? nest slot = some guest) (mem : id ∈ b.subtree guest) :
    id ∉ b.subtree follower := by
  have below := (held?_of_get? found .next).trans follows
  have differ : guest ≠ follower := by
    rintro rfl
    exact ne (hb.held_inj held below).2
  have apart := hb.apart_of_holds (hb.back_of_held held) (hb.back_of_held below) differ
  intro mem'
  rw [hb.mem_subtree (hb.held_lt held)] at mem
  rw [hb.mem_subtree (hb.held_lt below)] at mem'
  exact apart id (reflTransGen_holds_iff.mpr mem) (reflTransGen_holds_iff.mpr mem')

/-- **The blocks after a nest with a follower has been fitted.** -/
theorem get?_refit (aligned : b.Aligned) (found : b.get? nest = some block)
    (open_side : block.mouth = some mouth) (follows : block.links.next = some follower)
    (there : b.get? follower = some first) (extent : Float32) (id : BlockId) :
    (b.refit nest block extent).get? id =
      if id = nest then some (block.resize extent)
      else if id = follower then
        some ((first.shift (block.growth extent)).pin (block.resize extent).finish)
      else if id ∈ b.subtree follower then (b.get? id).map (·.shift (block.growth extent))
      else b.get? id := by
  have same : b.SameLinks (b.modify nest (·.resize extent)) :=
    sameLinks_modify b nest fun block => block.links_resize extent
  have hc := hb.congr same
  have outside := hb.nest_not_mem_subtree found follows
  have differ : nest ≠ follower := by
    rintro rfl
    exact outside (hb.mem_subtree_self (lt_of_get? found))
  have there' : (b.modify nest (·.resize extent)).get? follower = some first := by
    rw [get?_modify, if_neg differ, there]
  -- the snap reckons from the start of the follower, which is the old finish
  have delta : (block.resize extent).finish - first.start = block.growth extent := by
    rw [aligned.start_eq_finish found follows there, Block.growth_of_mouth open_side]
  rw [refit, follows]
  by_cases at_nest : id = nest
  · subst at_nest
    rw [if_pos rfl, hc.get?_snap_of_ne there' _ differ, ← same.subtree_eq, if_neg outside,
      get?_modify, if_pos rfl, found]
    rfl
  rw [if_neg at_nest]
  by_cases at_follower : id = follower
  · subst at_follower
    rw [if_pos rfl, hc.get?_snap_self there', delta]
  rw [if_neg at_follower, hc.get?_snap_of_ne there' _ at_follower, ← same.subtree_eq, delta,
    get?_modify, if_neg (Ne.symm at_nest)]

/-- Without a follower, fitting a nest changes the nest alone. -/
theorem refits_of_end (found : b.get? nest = some block) (open_side : block.mouth = some mouth)
    (no_follower : block.links.next = none) (extent : Float32) :
    b.Refits (b.refit nest block extent) nest block (block.resize extent) extent := by
  have roles := sameRoles_refit b nest block extent
  have alone : b.refit nest block extent = b.modify nest (·.resize extent) := by
    rw [refit, no_follower]
  rw [alone] at roles ⊢
  have stays : ∀ id, id ≠ nest → (b.modify nest (·.resize extent)).get? id = b.get? id :=
    fun id ne => by rw [get?_modify, if_neg ne.symm]
  refine ⟨⟨?_, mouth, open_side, Block.resize_of_mouth open_side extent⟩,
    Block.growth_of_mouth open_side extent, by simp [no_follower], by simp [no_follower],
    fun id ne _ => stays id ne, fun slot guest id _ held under => stays id ?_, roles⟩
  · rw [get?_modify, if_pos rfl, found]
    rfl
  · rintro rfl
    have outside := hb.holder_not_mem_subtree (hb.back_of_held held)
    rw [hb.mem_subtree_iff_of_lt (lt_of_get? found)] at outside
    exact outside under

/-- **What fitting a nest changes** if a block follows it, and every held block lies on its
slot. -/
theorem refits_of_follower (aligned : b.Aligned) (found : b.get? nest = some block)
    (open_side : block.mouth = some mouth) (follows : block.links.next = some follower)
    (extent : Float32) :
    b.Refits (b.refit nest block extent) nest block (block.resize extent) extent := by
  have lt := hb.held_lt ((held?_of_get? found .next).trans follows)
  obtain ⟨first, there⟩ := exists_get? lt
  have get?_eq := hb.get?_refit aligned found open_side follows there extent
  have outside := hb.nest_not_mem_subtree found follows
  have differ : follower ≠ nest := by
    rintro rfl
    exact outside (hb.mem_subtree_self lt)
  have only : ∀ {other}, block.links.next = some other → other = follower :=
    fun h => (Option.some.inj (follows.symm.trans h)).symm
  refine ⟨⟨?_, mouth, open_side, Block.resize_of_mouth open_side extent⟩,
    Block.growth_of_mouth open_side extent, ?_, ?_, ?_, ?_, sameRoles_refit b nest block extent⟩
  · rw [get?_eq, if_pos rfl]
  · intro other first' follows' there'
    obtain rfl := only follows'
    cases there.symm.trans there'
    refine ⟨_, first.carried_shift (block.growth extent), ?_⟩
    rw [get?_eq, if_neg differ, if_pos rfl]
    rfl
  · intro other id under follows' above found'
    obtain rfl := only follows'
    have mem : id ∈ b.subtree other :=
      (hb.mem_subtree_iff_of_lt (lt_of_get? found')).mpr (.inr above)
    have ne_nest : id ≠ nest := by
      rintro rfl
      exact outside mem
    have ne_follower : id ≠ other := by
      rintro rfl
      exact absurd ((hb.isAbove_self id).symm.trans above) nofun
    refine ⟨_, under.carried_shift (block.growth extent), ?_⟩
    rw [get?_eq, if_neg ne_nest, if_neg ne_follower, if_pos mem, found']
    rfl
  · intro id ne apart
    obtain ⟨ne', not_above⟩ := apart follower follows
    rw [get?_eq, if_neg ne, if_neg ne', if_neg (hb.not_mem_subtree_of_isAbove ne' not_above)]
  · intro slot guest id ne held mem
    rw [hb.isAbove_iff, ← hb.mem_subtree (hb.held_lt held)] at mem
    have apart := hb.not_mem_subtree_of_slot found follows ne held mem
    have ne_nest : id ≠ nest := by
      rintro rfl
      exact hb.holder_not_mem_subtree (hb.back_of_held held) mem
    have ne_follower : id ≠ follower := by
      rintro rfl
      exact apart (hb.mem_subtree_self lt)
    rw [get?_eq, if_neg ne_nest, if_neg ne_follower, if_neg apart]

/-- **What fitting a nest changes**, if every held block lies on its slot. -/
theorem refits_refit (aligned : b.Aligned) (found : b.get? nest = some block)
    (open_side : block.mouth.isSome) (extent : Float32) :
    b.Refits (b.refit nest block extent) nest block (block.resize extent) extent := by
  obtain ⟨mouth, open_side⟩ := Option.isSome_iff_exists.mp open_side
  cases follows : block.links.next with
  | none => exact hb.refits_of_end found open_side follows extent
  | some follower => exact hb.refits_of_follower aligned found open_side follows extent

end Forest

/-! ## The main statement -/

/-- **Each time a nest is fitted in a settling, what follows it moves as its finish does.** Let
a round start while a board that can come up is settled. It leads to a board on which the
nests can be put into an order and fitted one after the other. Whichever is next, its bar gets
the length that fits its body then, its finish moves by some displacement, and just this is
added to the start, the finish, the place of an argument, the place of the body and the top of
the bar of what follows the nest and of what lies under that, except that the follower itself
starts exactly at the new finish. Nothing else changes. -/
theorem Reachable.followers_move_with_finish (h : Reachable b) (start : RoundStart range b s) :
    ∃ m made order, s.round range = .ok (m, made) ∧ m.fittingOrder = .ok order ∧
      ∀ done nest rest, order = done ++ nest :: rest → ∃ f g block fitted extent,
        done.foldlM fit m = .ok f ∧ f.get? nest = some block ∧
        f.fittingExtent nest = .ok extent ∧ f.fit nest = .ok g ∧
        f.Refits g nest block fitted extent := by
  have stable := (stable_aligned range).and (stable_all lasting_shaped range)
  obtain ⟨hs, kept⟩ := start.keeps stable
    ⟨b.unlinked_unlink.aligned, (h.all lasting_shaped).unlink lasting_shaped⟩
  obtain ⟨m, made, matched, hm, -, kept⟩ := hs.exists_round stable kept
  obtain ⟨order, ordered, -⟩ := hm.exists_fittingOrder
  refine ⟨m, made, order, matched, ordered, fun done nest rest split => ?_⟩
  rw [split] at ordered
  obtain ⟨f, run, same, aligned, shaped⟩ := hm.exists_foldlM_fit_prefix stable kept ordered
  have mem : nest ∈ f.nests := same.nests_eq ▸ hm.mem_nests_of_fittingOrder ordered
  have hf := hm.congr same.sameLinks
  obtain ⟨block, extent, found, measured, fitted⟩ := hf.exists_fit (lt_of_mem_nests mem)
  exact ⟨f, _, block, _, extent, run, found, measured, fitted,
    hf.refits_refit aligned found (isSome_mouth_of_mem_nests shaped mem found) extent⟩

theorem reachable_stacked : stacked.Reachable :=
  .push .call ⟨12, 172⟩ "end" (.push (.nest .conditional) ⟨0, 115⟩ "if"
    (.push (.nest .conditional) .origin "if" (.push .call ⟨25, 98⟩ "on"
      (.push .call ⟨20, 52⟩ "go" .empty))))

/-- The first of two conditionals is fitted to the two calls in its body. By rounding its finish
goes down by a little more than a hundred, and so do all points of the second conditional and
of the call in the body of that. The calls in the body of the first one stay where they are. -/
theorem followers_move_with_finish_stacked : ∃ m g block fitted second moved deep deeper,
    stacked.unlink.round standardRange = .ok (m, 4) ∧
    m.fittingExtent 2 = .ok 150 ∧ m.fit 2 = .ok g ∧
    m.get? 2 = some block ∧ block.finish = ⟨0, 116.666664⟩ ∧
    g.get? 2 = some fitted ∧ fitted.finish = ⟨0, 216.66667⟩ ∧
    block.growth 150 = ⟨0, 100.00001⟩ ∧
    m.get? 3 = some second ∧ second.start = ⟨0, 116.666664⟩ ∧
    second.finish = ⟨0, 233.33334⟩ ∧ second.socket = some ⟨100, 116.666664⟩ ∧
    second.mouth = some ⟨.conditional, ⟨16.666666, 166.66666⟩, ⟨0, 166.66666⟩, 50⟩ ∧
    g.get? 3 = some moved ∧ moved.start = ⟨0, 216.66667⟩ ∧
    moved.finish = ⟨0, 333.33334⟩ ∧ moved.socket = some ⟨100, 216.66667⟩ ∧
    moved.mouth = some ⟨.conditional, ⟨16.666666, 266.66666⟩, ⟨0, 266.66666⟩, 50⟩ ∧
    m.get? 4 = some deep ∧ deep.start = ⟨16.666666, 166.66666⟩ ∧
    g.get? 4 = some deeper ∧ deeper.start = ⟨16.666666, 266.66666⟩ ∧
    g.get? 0 = m.get? 0 ∧ g.get? 1 = m.get? 1 := by
  have begun : RoundStart standardRange stacked stacked.unlink := .first
  obtain ⟨m, made, order, matched, ordered, each⟩ :=
    reachable_stacked.followers_move_with_finish begun
  have run : (stacked.unlink.round standardRange).toOption.any (fun matched =>
      decide (matched.2 = 4 ∧ matched.1.fittingOrder.toOption = some [2, 3] ∧
        matched.1.held? 2 .next = some 3 ∧ matched.1.held? 2 .body = some 0 ∧
        matched.1.isAbove 3 4 = true ∧ matched.1.isAbove 0 1 = true ∧
        (matched.1.fittingExtent 2).toOption = some 150 ∧
        (matched.1.get? 2).any (fun nest => decide (nest.finish = ⟨0, 116.666664⟩ ∧
          nest.mouth = some ⟨.conditional, ⟨16.666666, 50⟩, ⟨0, 50⟩, 50⟩)) = true ∧
        (matched.1.get? 3).any (fun second => decide (second.start = ⟨0, 116.666664⟩ ∧
          second.finish = ⟨0, 233.33334⟩ ∧ second.socket = some ⟨100, 116.666664⟩ ∧
          second.mouth = some ⟨.conditional, ⟨16.666666, 166.66666⟩, ⟨0, 166.66666⟩, 50⟩)) = true ∧
        matched.1.start? 4 = some ⟨16.666666, 166.66666⟩)) = true := by
    decide +kernel
  rw [matched] at run
  obtain ⟨rfl, only, below, body, under, inside, length, nest_at, second_at, deep_at⟩ :=
    of_decide_eq_true run
  dsimp only at only below body under inside length nest_at second_at deep_at
  cases ordered.symm.trans (eq_ok_of_toOption only)
  obtain ⟨f, g, block, fitted, extent, none_done, found, measured, fit, refits⟩ :=
    each [] 2 [3] rfl
  cases none_done
  cases measured.symm.trans (eq_ok_of_toOption length)
  -- the points before the fitting are computed
  rw [found] at nest_at
  obtain ⟨finish, mouth⟩ := of_decide_eq_true nest_at
  obtain ⟨second, second_found, points⟩ := (Option.any_eq_true ..).mp second_at
  obtain ⟨second_start, second_finish, second_socket, second_mouth⟩ := of_decide_eq_true points
  obtain ⟨deep, deep_found, deep_start⟩ := Option.map_eq_some_iff.mp deep_at
  rw [held?_of_get? found] at below
  -- those afterwards follow from them and from the displacement of the finish
  obtain ⟨fitted_found, open_side, there, fitted_eq⟩ := refits.at_nest
  obtain rfl := Option.some.inj (there.symm.trans mouth)
  have fitted_finish : fitted.finish = ⟨0, 216.66667⟩ := by
    rw [fitted_eq]
    dsimp only
    decide +kernel
  have growth : block.growth 150 = ⟨0, 100.00001⟩ := by
    rw [refits.displacement, fitted_finish, finish]
    decide +kernel
  obtain ⟨moved, carried, moved_found⟩ := refits.at_follower 3 second below second_found
  obtain ⟨deeper, deep_carried, deeper_found⟩ :=
    refits.below_follower 3 4 deep below under deep_found
  rw [growth] at carried deep_carried
  have displaced := carried.1 (by decide)
  have deep_displaced := deep_carried.1 (by decide)
  refine ⟨m, g, block, fitted, second, _, deep, deeper, matched, measured, fit, found, finish,
    fitted_found, fitted_finish, growth, second_found, second_start, second_finish, second_socket,
    second_mouth, moved_found, fitted_finish, ?_, ?_, ?_, deep_found, deep_start, deeper_found, ?_,
    refits.inside .body 0 0 nofun body (.inl rfl), refits.inside .body 0 1 nofun body (.inr inside)⟩
  · show moved.finish = _
    rw [displaced.finish, second_finish]
    decide +kernel
  · show moved.socket = _
    rw [displaced.socket, second_socket]
    decide +kernel
  · show moved.mouth = _
    rw [displaced.mouth, second_mouth]
    decide +kernel
  · rw [deep_displaced.start, deep_start]
    decide +kernel

end Board

end SnapBlocks
