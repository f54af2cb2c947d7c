import SnapBlocks.Proofs.Following

/-!
# Bars fit their bodies

All nests of a board are fitted one after the other, and a nest counts with its height in the
body of another. So it matters that the inner ones come first. The order is one by depth, and a
block in a body lies one level deeper than the nest around it (`Forest.level_of_mem_interior`);
hence whatever is nested inside of a nest, at any distance, has got its bar before the nest is
measured.

A bar that has been fitted is left alone by the rest of the pass: the other nests change their
own bars, and what follows them is moved with its bars as they are. `Board.FitsBodies` says all
this of a pass. A settled board is what the last pass has left, for a round that comes after it
makes no link.
-/

namespace SnapBlocks

@[simp] theorem Block.extent?_resize (block : Block) (extent : Float32) :
    (block.resize extent).extent? = block.extent?.map fun _ => extent := by
  cases open_side : block.mouth <;> simp [resize, extent?, Mouth.resize, open_side]

namespace Board

variable {b c f g m s : Board} {range : Float32} {id nest : BlockId} {block : Block}
  {extent : Float32} {order done rest ids : List BlockId}

/-! ## Bodies within bodies -/

/-- The block is one of those in the body of the nest. -/
def InBody (b : Board) (nest id : BlockId) : Prop := ∃ ids, b.interior nest = .ok ids ∧ id ∈ ids

/-- **The block lies inside of the nest**: in its body, or in the body of a nest there, and so
on. -/
def Inside (b : Board) : BlockId → BlockId → Prop := Relation.TransGen b.InBody

/-- What lies inside of a nest lies deeper. -/
theorem Forest.level_lt_of_inside (hb : b.Forest) (inside : b.Inside nest id) :
    b.level nest < b.level id := by
  have deeper : ∀ {outer inner}, b.InBody outer inner → b.level outer < b.level inner := by
    rintro outer inner ⟨ids, listed, mem⟩
    rw [hb.level_of_mem_interior listed mem]
    exact Nat.lt_succ_self _
  induction inside with
  | single here => exact deeper here
  | tail _ here ih => exact ih.trans (deeper here)

/-- **A nest comes after all nests inside of it.** -/
theorem Forest.mem_of_inside (hb : b.Forest) (ordered : b.fittingOrder = .ok (done ++ nest :: rest))
    (mem : id ∈ done ++ nest :: rest) (inside : b.Inside nest id) : id ∈ done := by
  have deeper := hb.level_lt_of_inside inside
  obtain ⟨-, later, -⟩ := List.pairwise_append.mp (hb.fittingOrder_pairwise ordered)
  rcases List.mem_append.mp mem with mem | mem
  · exact mem
  rcases List.mem_cons.mp mem with rfl | mem
  · exact absurd deeper (lt_irrefl _)
  · exact absurd deeper ((List.pairwise_cons.mp later).1 id mem).not_gt

/-! ## One fitting changes one bar -/

/-- A new bar changes the bar of one block. -/
theorem extent?_resize (b : Board) (nest : BlockId) (extent : Float32) (id : BlockId) :
    (b.modify nest (·.resize extent)).extent? id =
      if nest = id then (b.extent? id).map fun _ => extent else b.extent? id := by
  rw [extent?, get?_modify, extent?]
  split
  · cases b.get? id with
    | none => rfl
    | some block => exact block.extent?_resize extent
  · rfl

/-- **Fitting a nest changes the bar of the nest and no other**, though it may move blocks. -/
theorem extent?_refit (b : Board) (nest : BlockId) (block : Block) (extent : Float32)
    (id : BlockId) : (b.refit nest block extent).extent? id =
      if nest = id then (b.extent? id).map fun _ => extent else b.extent? id := by
  unfold refit
  split
  · exact b.extent?_resize nest extent id
  · rw [extent?_snap, extent?_resize]

theorem extent?_fit_of_ne (fitted : b.fit nest = .ok c) (ne : nest ≠ id) :
    c.extent? id = b.extent? id := by
  obtain ⟨block, extent, -, -, rfl⟩ := eq_refit_of_fit fitted
  rw [extent?_refit, if_neg ne]

/-- A bar stays as it is while other nests are fitted. -/
theorem extent?_of_foldlM_fit (run : rest.foldlM fit b = .ok c) (not_mem : id ∉ rest) :
    c.extent? id = b.extent? id :=
  foldlM_induction (P := fun c => c.extent? id = b.extent? id) run rfl
    fun _ nest mem _ same fitted => by
      have ne : nest ≠ id := by
        rintro rfl
        exact not_mem mem
      exact (extent?_fit_of_ne fitted ne).trans same

/-- A nest has got the bar that fits its body. -/
theorem extent?_fit_self (shaped : b.All Shaped) (mem : nest ∈ b.nests)
    (measured : b.fittingExtent nest = .ok extent) (fitted : b.fit nest = .ok c) :
    c.extent? nest = some extent := by
  obtain ⟨block, extent', found, measured', rfl⟩ := eq_refit_of_fit fitted
  cases measured.symm.trans measured'
  obtain ⟨mouth, open_side⟩ :=
    Option.isSome_iff_exists.mp (isSome_mouth_of_mem_nests shaped mem found)
  rw [extent?_refit, if_pos rfl, extent?, found, Option.bind_some, Block.extent?, open_side]
  rfl

/-! ## A pass over the nests -/

/-- **A nest gets its bar in a pass** that leads from the first board to the second, when the
nests `done` have been fitted. The length of the bar becomes the sum of what the blocks in the
body add to it as they are then, and no other bar changes. To the end of the pass the bar stays
like that. -/
def GetsBar (b c : Board) (done : List BlockId) (nest : BlockId) : Prop :=
  ∃ f g ids lengths extent, done.foldlM fit b = .ok f ∧ f.fit nest = .ok g ∧
    b.interior nest = .ok ids ∧ List.Forall₂ f.Adds ids lengths ∧
    extent = emptyExtent + lengths.foldl (· + ·) 0 ∧
    g.extent? nest = some extent ∧ (∀ id, nest ≠ id → g.extent? id = f.extent? id) ∧
    c.extent? nest = some extent

/-- **The nests of the first board have been fitted in an order, and the second is what came of
it.** -/
structure FitsBodies (b c : Board) (order : List BlockId) : Prop where
  /-- It is the order in which the nests are fitted. -/
  ordered : b.fittingOrder = .ok order
  /-- Fitting them one after the other does not fault, and leads to the second board. -/
  run : order.foldlM fit b = .ok c
  /-- That is all the pass does; it answers how many there were. -/
  fitted : b.fitAll = .ok (c, order.length)
  /-- No nest comes up twice. -/
  nodup : order.Nodup
  /-- All nests come up, and no other blocks. -/
  mem_iff : ∀ id, id ∈ order ↔ ∃ block, b.get? id = some block ∧ block.kind.hasBody
  /-- A nest inside of another comes before that one. -/
  inner_first : ∀ done nest rest, order = done ++ nest :: rest →
    ∀ id ∈ order, b.Inside nest id → id ∈ done
  /-- Every nest gets its bar when its turn has come. -/
  turn : ∀ done nest rest, order = done ++ nest :: rest → b.GetsBar c done nest
  /-- No kind, no code and no link changes, so all bodies stay the same. -/
  roles : b.SameRoles c

namespace Forest

variable (hb : b.Forest) (shaped : b.All Shaped)

include hb shaped

/-- **A nest gets its bar when its turn has come**, and the rest of the pass leaves it alone. -/
theorem getsBar (ordered : b.fittingOrder = .ok (done ++ nest :: rest))
    (run : (done ++ nest :: rest).foldlM fit b = .ok c) : b.GetsBar c done nest := by
  rw [List.foldlM_append] at run
  obtain ⟨f, first, run⟩ := bind_eq_ok run
  rw [List.foldlM_cons] at run
  obtain ⟨g, turn, run⟩ := bind_eq_ok run
  obtain ⟨f', first', same, shaped⟩ :=
    hb.exists_foldlM_fit_prefix (stable_all lasting_shaped standardRange) shaped ordered
  cases first.symm.trans first'
  obtain ⟨ids, lengths, listed, adds, measured⟩ :=
    (hb.congr same.sameLinks).exists_fittingExtent nest
  rw [← same.sameLinks.interior_eq] at listed
  have mem : nest ∈ f.nests := same.nests_eq ▸ hb.mem_nests_of_fittingOrder ordered
  have own := extent?_fit_self shaped mem measured turn
  have nodup := (hb.fittingOrder_perm ordered).nodup_iff.mpr b.nodup_nests
  have not_later : nest ∉ rest := (List.nodup_cons.mp (List.nodup_append.mp nodup).2.1).1
  exact ⟨f, g, ids, lengths, _, first, turn, listed, adds, rfl, own,
    fun _ ne => extent?_fit_of_ne turn ne, (extent?_of_foldlM_fit run not_later).trans own⟩

/-- **Fitting all nests of a forest fits them to their bodies**, if no other blocks have a
bar. -/
theorem exists_fitsBodies : ∃ c order, b.FitsBodies c order := by
  obtain ⟨c, fitted, roles, -⟩ := hb.exists_fitAll (stable_true standardRange) trivial
  obtain ⟨order, ordered, run, counted⟩ := foldlM_of_fitAll fitted
  have perm := hb.fittingOrder_perm ordered
  rw [counted] at fitted
  refine ⟨c, order, ordered, run, fitted, perm.nodup_iff.mpr b.nodup_nests,
    fun id => perm.mem_iff.trans mem_nests, ?_, ?_, roles⟩
  · rintro done nest rest rfl id mem inside
    exact hb.mem_of_inside ordered mem inside
  · rintro done nest rest rfl
    exact hb.getsBar shaped ordered run

end Forest

/-- Blocks that are not nests add one unit each. -/
theorem eq_replicate_of_adds {lengths : List Float32} (adds : List.Forall₂ b.Adds ids lengths)
    (plain : ∀ id ∈ ids, ∀ block, b.get? id = some block → block.kind.hasBody = false) :
    lengths = List.replicate ids.length plainExtent := by
  induction adds with
  | nil => rfl
  | cons first _ ih =>
    obtain ⟨block, found, rfl⟩ := first
    rw [plain _ List.mem_cons_self block found, ih fun id mem => plain id (.tail _ mem)]
    rfl

/-- A bar around a body of plain blocks is longer by one unit for each of them. -/
theorem FitsBodies.extent?_of_plain (h : b.FitsBodies c order) (mem : nest ∈ c.nests)
    (listed : c.interior nest = .ok ids)
    (plain : ∀ id ∈ ids, ∀ block, c.get? id = some block → block.kind.hasBody = false) :
    c.extent? nest =
      some (emptyExtent + (List.replicate ids.length plainExtent).foldl (· + ·) 0) := by
  rw [← h.roles.nests_eq, mem_nests, ← h.mem_iff] at mem
  rw [← h.roles.sameLinks.interior_eq] at listed
  obtain ⟨done, rest, split⟩ := List.append_of_mem mem
  obtain ⟨f, g, ids', lengths, extent, first, -, listed', adds, rfl, -, -, own⟩ :=
    h.turn done nest rest split
  cases listed.symm.trans listed'
  -- the blocks were measured on the way, and their kinds are those of the second board
  rw [own, eq_replicate_of_adds adds fun id mem block found => ?_]
  have kind : c.kind? id = some block.kind := by
    rw [← h.roles.kind?, (sameRoles_of_foldlM_fit first).kind?, kind?_of_get? found]
  obtain ⟨member, there, same⟩ := Option.map_eq_some_iff.mp kind
  rw [← same]
  exact plain id mem member there

/-! ## The last pass -/

/-- Rounds that follow a pass over the nests end with such a pass: the round after it makes no
link, if there is one. -/
theorem RoundStart.fitted_of_moreRounds {made count : Nat} (h : RoundStart range b s)
    (matched : s.round range = .ok (m, made)) (fit : m.fitAll = .ok (f, count))
    {limit links fitted total last : Nat}
    (run : moreRounds range limit f links fitted = .ok (c, total, last)) :
    ∃ s m made count, RoundStart range b s ∧ s.round range = .ok (m, made) ∧
      m.fitAll = .ok (c, count) := by
  induction limit generalizing s m made f count links fitted with
  | zero =>
    cases run
    exact ⟨s, m, made, count, h, matched, fit⟩
  | succ limit ih =>
    obtain ⟨m', made', matched', ⟨rfl, rfl, -⟩ | ⟨-, f', count', fit', run⟩⟩ := moreRounds_cases run
    · obtain ⟨-, rfl⟩ := round_eq_zero_iff.mp matched'
      exact ⟨s, m, made, count, h, matched, fit⟩
    · exact ih (h.next matched fit) matched' fit' run

/-- **A settled board is what a pass over the nests has left.** -/
theorem fitted_of_settle {report : Report} (settled : b.settle range = .ok (c, report)) :
    ∃ s m made count, RoundStart range b s ∧ s.round range = .ok (m, made) ∧
      m.fitAll = .ok (c, count) := by
  obtain ⟨m, made, f, fitted, total, last, matched, fit, -, ⟨-, rfl, -⟩ | ⟨-, more⟩⟩ :=
    settle_eq_ok_iff.mp settled
  · exact ⟨_, m, made, fitted, .first, matched, fit⟩
  · exact RoundStart.first.fitted_of_moreRounds matched fit more

/-- Every round of a settling can be followed by a pass over the nests, and the pass fits them to
their bodies. -/
theorem Reachable.exists_pass (h : Reachable b) (start : RoundStart range b s) :
    ∃ m made c order, s.round range = .ok (m, made) ∧ m.FitsBodies c order := by
  have stable := stable_all lasting_shaped range
  obtain ⟨hs, shaped⟩ := start.keeps stable ((h.all lasting_shaped).unlink lasting_shaped)
  obtain ⟨m, made, matched, hm, -, shaped⟩ := hs.exists_round stable shaped
  obtain ⟨c, order, fits⟩ := hm.exists_fitsBodies shaped
  exact ⟨m, made, c, order, matched, fits⟩

/-! ## The main statement -/

/-- **Every pass over the nests fits each of them once, inner ones first, and leaves it with a
bar that fits its body.** So it is if the nests of a board that can come up are fitted as it is,
and in every pass of a settling of it. The last of these leads to the settled board. A nest
there whose body consists of blocks that are not nests has a bar of one unit, and of one unit
more for each of them. -/
theorem Reachable.bars_fit_bodies (h : Reachable b) :
    (∃ c order, b.FitsBodies c order) ∧ ∀ range,
      (∀ s, RoundStart range b s → ∃ m made c order,
        s.round range = .ok (m, made) ∧ m.FitsBodies c order) ∧
      ∃ s report, b.settle range = .ok (s, report) ∧
        (∃ start m made order, RoundStart range b start ∧ start.round range = .ok (m, made) ∧
          m.FitsBodies s order) ∧
        ∀ nest block, s.get? nest = some block → block.kind.hasBody = true →
          ∃ ids, s.interior nest = .ok ids ∧
            ((∀ id ∈ ids, ∀ member, s.get? id = some member → member.kind.hasBody = false) →
              s.extent? nest =
                some (emptyExtent + (List.replicate ids.length plainExtent).foldl (· + ·) 0)) := by
  refine ⟨h.forest.exists_fitsBodies (h.all lasting_shaped), fun range =>
    ⟨fun s start => h.exists_pass start, ?_⟩⟩
  obtain ⟨s, report, settled, hs, -⟩ := exists_settle (stable_true range) b trivial
  obtain ⟨start, m, made, count, at_start, matched, fitted⟩ := fitted_of_settle settled
  obtain ⟨m', made', c, order, matched', fits⟩ := h.exists_pass at_start
  obtain ⟨rfl, rfl⟩ := ok_unique matched matched'
  obtain ⟨rfl, -⟩ := ok_unique fitted fits.fitted
  refine ⟨s, report, settled, ⟨start, m, made, order, at_start, matched, fits⟩,
    fun nest block found hasBody => ?_⟩
  obtain ⟨ids, listed, -⟩ := hs.exists_interior nest
  exact ⟨ids, listed, fits.extent?_of_plain (mem_nests.mpr ⟨block, found, hasBody⟩) listed⟩

/-- In the first pass of a settling the inner one of two conditionals gets its bar before the
outer one, to which it adds its height, marker and all. The call behind it adds one unit. -/
theorem bars_fit_bodies_nested : ∃ m c f inner s report,
    nested.unlink.round standardRange = .ok (m, 5) ∧ m.FitsBodies c [2, 0, 5] ∧
    m.fit 2 = .ok f ∧ f.get? 2 = some inner ∧
    c.extent? 0 = some (emptyExtent + (0 + (inner.finish.y - inner.start.y) + plainExtent)) ∧
    nested.settle standardRange = .ok (s, report) ∧
    s.extent? 2 = some (emptyExtent + (0 + plainExtent)) := by
  obtain ⟨-, each⟩ := reachable_nested.bars_fit_bodies
  obtain ⟨pass, s, report, settled, -, plain⟩ := each standardRange
  obtain ⟨m, made, c, order, matched, fits⟩ := pass _ .first
  have run : (nested.unlink.round standardRange).toOption.any (fun matched =>
      decide (matched.2 = 5 ∧ matched.1.fittingOrder.toOption = some [2, 0, 5] ∧
        (matched.1.interior 0).toOption = some [2, 4] ∧
        matched.1.kind? 2 = some (.nest .conditional) ∧ matched.1.kind? 4 = some .call)) = true := by
    decide +kernel
  have run' : (nested.settle standardRange).toOption.any (fun settled =>
      decide ((settled.1.interior 2).toOption = some [3] ∧
        settled.1.kind? 2 = some (.nest .conditional) ∧ settled.1.kind? 3 = some .call)) = true := by
    decide +kernel
  rw [matched] at run
  rw [settled] at run'
  obtain ⟨rfl, ordered, body, inner_kind, call_kind⟩ := of_decide_eq_true run
  obtain ⟨inner_body, nest_kind, deep_kind⟩ := of_decide_eq_true run'
  cases fits.ordered.symm.trans (eq_ok_of_toOption ordered)
  -- the turn of the outer conditional
  obtain ⟨f, g, ids, lengths, extent, first, -, listed, adds, rfl, -, -, outer⟩ :=
    fits.turn [2] 0 [5] rfl
  cases listed.symm.trans (eq_ok_of_toOption body)
  have same := sameRoles_of_foldlM_fit first
  obtain ⟨f', fitted, nothing_left⟩ := bind_eq_ok first
  cases nothing_left
  obtain ⟨_, _, ⟨inner, there, rfl⟩, adds_call, rfl⟩ := List.forall₂_cons_left_iff.mp adds
  obtain ⟨_, _, ⟨call, call_there, rfl⟩, nothing, rfl⟩ := List.forall₂_cons_left_iff.mp adds_call
  obtain rfl := List.forall₂_nil_left_iff.mp nothing
  have is_nest := Option.some.inj ((kind?_of_get? there).symm.trans (same.kind? 2 ▸ inner_kind))
  have is_call := Option.some.inj ((kind?_of_get? call_there).symm.trans (same.kind? 4 ▸ call_kind))
  rw [is_nest, is_call] at outer
  refine ⟨m, c, f, inner, s, report, matched, fits, fitted, there, outer, settled, ?_⟩
  -- the body of the inner conditional in the end
  obtain ⟨nest, nest_there, is_nest⟩ := Option.map_eq_some_iff.mp nest_kind
  obtain ⟨ids, listed', alone⟩ := plain 2 nest nest_there (is_nest ▸ rfl)
  cases listed'.symm.trans (eq_ok_of_toOption inner_body)
  refine alone fun id mem member found => ?_
  obtain rfl := List.mem_singleton.mp mem
  rw [Option.some.inj ((kind?_of_get? found).symm.trans deep_kind)]
  rfl

end Board

end SnapBlocks
