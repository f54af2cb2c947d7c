import SnapBlocks.Proofs.Attaching
import SnapBlocks.Proofs.Depth

/-!
# Fitting one nest

On a forest fitting never fails. A chain of successors ends, because each block of
it has one ancestor more than the one before, and there are fewer ancestors than
blocks. So the body of a nest can be listed and measured, the nests can be sorted by
their levels, and `Board.fit` gives a board; `Board.refit` says which one.

Fitting lays blocks out anew and touches no link.
-/

namespace SnapBlocks.Board

variable {b c : Board} {id nest : BlockId} {block : Block} {extent : Float32}

/-! ## Walks that end -/

/-- **A chain on a forest ends**: what fuel is left, and the ancestors climbed so far,
always make up for the blocks that may still follow. -/
theorem Forest.exists_chainWithin (hb : b.Forest) {fuel : Nat} (lt : id < b.size)
    (enough : b.size ≤ fuel + (b.ancestors id).length) :
    ∃ ids, b.chainWithin fuel (some id) = .ok ids ∧ ∀ member ∈ ids, member < b.size := by
  induction fuel generalizing id with
  | zero =>
    have := hb.length_ancestors_lt lt
    omega
  | succ fuel ih =>
    rw [chainWithin_succ]
    cases next : b.held? id .next with
    | none =>
      have at_end : b.chainWithin fuel none = .ok [] := by cases fuel <;> rfl
      rw [at_end]
      exact ⟨[id], rfl, fun member mem => by rwa [List.mem_singleton.mp mem]⟩
    | some follower =>
      -- the fuel spent on this block is made up for by the ancestor that the next one has more
      have climbed := hb.length_ancestors_of_back? (hb.back_of_held next)
      obtain ⟨ids, rest, all_lt⟩ := ih (hb.held_lt next) (by omega)
      rw [rest]
      refine ⟨id :: ids, rfl, fun member mem => ?_⟩
      rcases List.mem_cons.mp mem with rfl | mem
      · exact lt
      · exact all_lt member mem

/-- The body of a nest can be listed, and all of it is on the board. -/
theorem Forest.exists_interior (hb : b.Forest) (nest : BlockId) :
    ∃ ids, b.interior nest = .ok ids ∧ ∀ member ∈ ids, member < b.size := by
  rw [interior, chain]
  cases first : b.held? nest .body with
  | none => exact ⟨[], rfl, fun _ mem => absurd mem List.not_mem_nil⟩
  | some id => exact hb.exists_chainWithin (hb.held_lt first) (by omega)

/-- A chain is a matter of links. -/
theorem SameLinks.chainWithin_eq (h : b.SameLinks c) (fuel : Nat) (start : Option BlockId) :
    b.chainWithin fuel start = c.chainWithin fuel start := by
  induction fuel generalizing start with
  | zero => cases start <;> rfl
  | succ fuel ih =>
    cases start with
    | none => rfl
    | some id => rw [chainWithin_succ, chainWithin_succ, h.held?, ih]

/-- Boards with the same links have the same bodies. -/
theorem SameLinks.interior_eq (h : b.SameLinks c) (nest : BlockId) :
    b.interior nest = c.interior nest := by
  rw [interior, interior, chain, chain, h.size_eq, h.held?, h.chainWithin_eq]

/-! ## The order of the nests -/

/-- On a forest the nests are sorted by their levels. -/
theorem Forest.fittingOrder_eq (hb : b.Forest) : b.fittingOrder =
    .ok ((sortByDepth (b.nests.map fun id => (b.level id, id))).map Prod.snd) := by
  have each : (fun id => do return (← b.depth id, id))
      = fun id => (pure (b.level id, id) : Except Fault _) :=
    funext fun id => by rw [hb.depth_eq_level]; rfl
  rw [fittingOrder, each, List.mapM_pure]
  rfl

/-- **All nests are fitted**, each of them once, and nothing else. -/
theorem Forest.fittingOrder_perm (hb : b.Forest) {order : List BlockId}
    (ordered : b.fittingOrder = .ok order) : order.Perm b.nests := by
  cases hb.fittingOrder_eq.symm.trans ordered
  have perm := (sortByDepth_perm (b.nests.map fun id => (b.level id, id))).map Prod.snd
  rwa [List.map_map, List.map_id''] at perm
  exact fun _ => rfl

theorem Forest.exists_fittingOrder (hb : b.Forest) :
    ∃ order, b.fittingOrder = .ok order ∧ order.Perm b.nests :=
  ⟨_, hb.fittingOrder_eq, hb.fittingOrder_perm hb.fittingOrder_eq⟩

theorem Forest.mem_nests_of_fittingOrder (hb : b.Forest) {done rest : List BlockId}
    (ordered : b.fittingOrder = .ok (done ++ nest :: rest)) : nest ∈ b.nests :=
  (hb.fittingOrder_perm ordered).mem_iff.mp (List.mem_append_right _ List.mem_cons_self)

/-- **Deeper nests are fitted before those that lie less deep.** -/
theorem Forest.fittingOrder_pairwise (hb : b.Forest) {order : List BlockId}
    (ordered : b.fittingOrder = .ok order) :
    order.Pairwise fun first later => b.level later ≤ b.level first := by
  cases hb.fittingOrder_eq.symm.trans ordered
  have named : ∀ entry ∈ sortByDepth (b.nests.map fun id => (b.level id, id)),
      b.level entry.2 = entry.1 := by
    intro entry mem
    obtain ⟨id, -, rfl⟩ := List.mem_map.mp ((sortByDepth_perm _).mem_iff.mp mem)
    rfl
  refine List.pairwise_map.mpr ((sortByDepth_sorted _).imp_of_mem fun first_mem later_mem le => ?_)
  rw [named _ first_mem, named _ later_mem]
  exact le

/-! ## The board with one nest fitted -/

/-- **The board with a nest of a given bar**, and what follows the nest snapped to the
foot of it. -/
def refit (b : Board) (nest : BlockId) (block : Block) (extent : Float32) : Board :=
  match block.links.next with
  | none => b.modify nest (·.resize extent)
  | some follower => (b.modify nest (·.resize extent)).snap follower (block.resize extent).finish

/-- Fitting a nest gives it the bar that fits its body. -/
theorem fit_of_fittingExtent (found : b.get? nest = some block)
    (measured : b.fittingExtent nest = .ok extent) :
    b.fit nest = .ok (b.refit nest block extent) := by
  rw [fit, measured, fetch_eq_ok_iff.mpr found, refit]
  dsimp only [bind, Except.bind]
  cases block.links.next <;> rfl

/-- A nest that could be fitted is on the board, and its body could be measured. -/
theorem eq_refit_of_fit (h : b.fit nest = .ok c) : ∃ block extent, b.get? nest = some block ∧
    b.fittingExtent nest = .ok extent ∧ c = b.refit nest block extent := by
  obtain ⟨extent, measured, rest⟩ := bind_eq_ok h
  obtain ⟨block, found, -⟩ := bind_eq_ok rest
  rw [fetch_eq_ok_iff] at found
  refine ⟨block, extent, found, measured, ?_⟩
  rw [fit_of_fittingExtent found measured] at h
  exact (Except.ok.inj h).symm

/-- **What a block in a body adds to the length of the bar**: a nest adds its height, and any
other block one unit. -/
def Adds (b : Board) (id : BlockId) (length : Float32) : Prop :=
  ∃ block, b.get? id = some block ∧
    length = if block.kind.hasBody then block.finish.y - block.start.y else plainExtent

/-- **The body of any nest of a forest can be measured**, by adding up from its first block to
its last. -/
theorem Forest.exists_fittingExtent (hb : b.Forest) (nest : BlockId) :
    ∃ ids lengths, b.interior nest = .ok ids ∧ List.Forall₂ b.Adds ids lengths ∧
      b.fittingExtent nest = .ok (emptyExtent + lengths.foldl (· + ·) 0) := by
  obtain ⟨ids, listed, all_lt⟩ := hb.exists_interior nest
  have each : ∀ id ∈ ids, ∃ length, b.lengthInBody id = .ok length ∧ b.Adds id length := by
    intro id mem
    obtain ⟨member, found⟩ := exists_get? (all_lt id mem)
    rw [lengthInBody, fetch_eq_ok_iff.mpr found]
    exact ⟨_, rfl, member, found, rfl⟩
  obtain ⟨lengths, measured, adds⟩ := exists_mapM_eq_ok each
  refine ⟨ids, lengths, listed, adds, ?_⟩
  rw [fittingExtent, listed]
  dsimp only [bind, Except.bind]
  rw [measured]
  rfl

/-- **Any block of a forest can be fitted.** -/
theorem Forest.exists_fit (hb : b.Forest) (lt : nest < b.size) : ∃ block extent,
    b.get? nest = some block ∧ b.fittingExtent nest = .ok extent ∧
      b.fit nest = .ok (b.refit nest block extent) := by
  obtain ⟨block, found⟩ := exists_get? lt
  obtain ⟨ids, lengths, -, -, measured⟩ := hb.exists_fittingExtent nest
  exact ⟨block, _, found, measured, fit_of_fittingExtent found measured⟩

/-- Fitting a nest changes no kind, no code and no link. -/
theorem sameRoles_refit (b : Board) (nest : BlockId) (block : Block) (extent : Float32) :
    b.SameRoles (b.refit nest block extent) := by
  have resized := sameRoles_modify b nest fun block => block.role_resize extent
  unfold refit
  split
  · exact resized
  · exact resized.trans (sameRoles_snap _ _ _)

theorem sameRoles_of_fit (h : b.fit nest = .ok c) : b.SameRoles c := by
  obtain ⟨block, extent, -, -, rfl⟩ := eq_refit_of_fit h
  exact sameRoles_refit b nest block extent

/-- Fitting one nest after the other changes no kind, no code and no link. -/
theorem sameRoles_of_foldlM_fit {nests : List BlockId} (run : nests.foldlM fit b = .ok c) :
    b.SameRoles c :=
  foldlM_induction run (.refl b) fun _ _ _ _ same step => same.trans (sameRoles_of_fit step)

/-- Fitting all nests means fitting one after the other, in their order. -/
theorem foldlM_of_fitAll {fitted : Nat} (h : b.fitAll = .ok (c, fitted)) : ∃ order,
    b.fittingOrder = .ok order ∧ order.foldlM fit b = .ok c ∧ fitted = order.length := by
  obtain ⟨order, ordered, h⟩ := bind_eq_ok h
  obtain ⟨f, run, h⟩ := bind_eq_ok h
  cases h
  exact ⟨order, ordered, run, rfl⟩

/-- Fitting all nests changes no kind, no code and no link. -/
theorem sameRoles_of_fitAll {fitted : Nat} (h : b.fitAll = .ok (c, fitted)) : b.SameRoles c := by
  obtain ⟨order, -, run, -⟩ := foldlM_of_fitAll h
  exact sameRoles_of_foldlM_fit run

/-- Boards with the same blocks have the same nests. -/
theorem SameRoles.nests_eq (h : b.SameRoles c) : b.nests = c.nests := by
  unfold nests ids
  rw [h.sameLinks.size_eq]
  refine List.filter_congr fun id _ => ?_
  have by_kind : ∀ d : Board, (d.get? id).any (·.kind.hasBody) = (d.kind? id).any Kind.hasBody :=
    fun d => by rw [Board.kind?, Option.any_map]
  rw [by_kind, by_kind, h.kind?]

theorem nodup_nests (b : Board) : b.nests.Nodup := List.nodup_range.filter _

theorem lt_of_mem_nests (mem : nest ∈ b.nests) : nest < b.size :=
  mem_ids.mp (List.mem_of_mem_filter mem)

theorem mem_nests : nest ∈ b.nests ↔ ∃ block, b.get? nest = some block ∧ block.kind.hasBody := by
  rw [nests, List.mem_filter, mem_ids, Option.any_eq_true]
  constructor
  · exact fun h => h.2
  · rintro ⟨block, found, hasBody⟩
    exact ⟨lt_of_get? found, block, found, hasBody⟩

end SnapBlocks.Board
