import SnapBlocks.Board.Settling
import SnapBlocks.Proofs.Faultless
import SnapBlocks.Proofs.Moving

/-!
# Attaching one block

`Board.verdict` asks its questions one after the other. Taken together, an
accepting answer says all that is true of the guest and the slot, and
`Board.Fits` lists it; any other answer about two blocks of the board is a
refusal. What an attempt does is then one of two things: nothing, or
`Board.attach`, for a guest that fits.

Attaching keeps the board a forest. The snap before it changes no link, and the
link closes no circle, since the guest was asked not to lie above its host.
-/

namespace SnapBlocks.Board

variable {b c : Board} {range : Float32} {host guest : BlockId} {slot : Slot} {spot : Point}

/-- The position of a slot of a block, if the block is there and owns the slot. -/
def spot? (b : Board) (id : BlockId) (slot : Slot) : Option Point := (b.get? id).bind (·.spot? slot)

/-- The start of a block, if there is such a block. -/
def start? (b : Board) (id : BlockId) : Option Point := (b.get? id).map (·.start)

/-- The kind of a block, if there is such a block. -/
def kind? (b : Board) (id : BlockId) : Option Kind := (b.get? id).map (·.kind)

theorem kind?_of_get? {id : BlockId} {block : Block} (found : b.get? id = some block) :
    b.kind? id = some block.kind := by
  rw [kind?, found]
  rfl

theorem SameRoles.kind? (h : b.SameRoles c) (id : BlockId) : b.kind? id = c.kind? id := by
  have := congrArg (Option.map fun role : Kind × String × Links => role.1) (h id)
  rw [Option.map_map, Option.map_map] at this
  exact this

/-! ## What it takes to be accepted -/

/-- **A guest fits a slot at a spot**: the slot is there and empty, it takes blocks of
the guest's kind, the guest is free and near enough, and it does not lie above the
host. -/
structure Fits (b : Board) (range : Float32) (host guest : BlockId) (slot : Slot) (spot : Point) :
    Prop where
  /-- Host and guest are two blocks. -/
  ne : host ≠ guest
  /-- The host has slots, and this one lies at the spot. -/
  host_fits : ∃ owner, b.get? host = some owner ∧ owner.kind.isInline = false ∧
    owner.spot? slot = some spot
  /-- The guest is of a kind for the slot, and near enough. -/
  guest_fits : ∃ block, b.get? guest = some block ∧ slot.accepts block.kind = true ∧
    ¬ range ≤ spot.distance block.start
  /-- Nothing lies in the slot. -/
  empty : b.held? host slot = none
  /-- Nothing holds the guest. -/
  free : b.back? guest = none
  /-- The guest is no ancestor of the host. -/
  below : b.isAbove guest host = false

namespace Fits

theorem host_lt (h : b.Fits range host guest slot spot) : host < b.size := by
  obtain ⟨owner, found, -⟩ := h.host_fits
  exact lt_of_get? found

theorem guest_lt (h : b.Fits range host guest slot spot) : guest < b.size := by
  obtain ⟨block, found, -⟩ := h.guest_fits
  exact lt_of_get? found

/-- The spot of a guest that fits is where the slot lies. -/
theorem spot?_eq (h : b.Fits range host guest slot spot) : b.spot? host slot = some spot := by
  obtain ⟨owner, found, -, at_spot⟩ := h.host_fits
  rw [spot?, found]
  exact at_spot

end Fits

/-- **A guest is accepted exactly if it fits.** -/
theorem verdict_eq_accept_iff :
    b.verdict range host guest slot = .ok (.accept spot) ↔ b.Fits range host guest slot spot := by
  constructor
  · intro accepted
    unfold verdict at accepted
    split at accepted
    · cases accepted
    rename_i ne
    obtain ⟨owner, fetch_host, accepted⟩ := bind_eq_ok accepted
    obtain ⟨block, fetch_guest, accepted⟩ := bind_eq_ok accepted
    rw [fetch_eq_ok_iff] at fetch_host fetch_guest
    -- each question in turn has to be answered in the guest's favour
    split at accepted
    · cases accepted
    rename_i not_inline
    split at accepted
    · cases accepted
    rename_i spot' at_spot
    dsimp only at accepted
    split at accepted
    · cases accepted
    rename_i accepts
    split at accepted
    · cases accepted
    rename_i near
    split at accepted
    · cases accepted
    · cases accepted
    rename_i empty free
    split at accepted
    · cases accepted
    rename_i below
    cases accepted
    rw [Bool.not_eq_true', Bool.not_eq_false] at accepts
    refine ⟨ne, ⟨owner, fetch_host, Bool.eq_false_iff.mpr not_inline, at_spot⟩,
      ⟨block, fetch_guest, accepts, near⟩, ?_, ?_, Bool.eq_false_iff.mpr below⟩
    · exact (held?_of_get? fetch_host slot).trans empty
    · exact (back?_of_get? fetch_guest).trans free
  · rintro ⟨ne, ⟨owner, found_host, not_inline, at_spot⟩, ⟨block, found_guest, accepts, near⟩,
      empty, free, below⟩
    have empty' : owner.links.held slot = none := (held?_of_get? found_host slot).symm.trans empty
    have free' : block.links.back = none := (back?_of_get? found_guest).symm.trans free
    have fetch_host := fetch_eq_ok_iff.mpr found_host
    have fetch_guest := fetch_eq_ok_iff.mpr found_guest
    unfold verdict
    rw [if_neg ne, fetch_host, fetch_guest]
    dsimp only [bind, Except.bind]
    rw [not_inline, at_spot]
    dsimp only
    rw [accepts, empty', free', below, if_neg near]
    rfl

/-- **About two blocks of the board there is always an answer.** -/
theorem exists_verdict (range : Float32) (slot : Slot) (host_lt : host < b.size)
    (guest_lt : guest < b.size) : ∃ answer, b.verdict range host guest slot = .ok answer := by
  obtain ⟨owner, found_host⟩ := exists_get? host_lt
  obtain ⟨block, found_guest⟩ := exists_get? guest_lt
  unfold verdict
  rw [fetch_eq_ok_iff.mpr found_host, fetch_eq_ok_iff.mpr found_guest]
  dsimp only [bind, Except.bind]
  repeat' split
  all_goals exact ⟨_, rfl⟩

/-- **A guest is refused exactly if it fits at no spot.** -/
theorem exists_refuse_iff (host_lt : host < b.size) (guest_lt : guest < b.size) :
    (∃ reason, b.verdict range host guest slot = .ok (.refuse reason)) ↔
      ∀ spot, ¬ b.Fits range host guest slot spot := by
  obtain ⟨answer, answered⟩ := exists_verdict range slot host_lt guest_lt
  constructor
  · rintro ⟨reason, refused⟩ spot fits
    rw [verdict_eq_accept_iff.mpr fits] at refused
    cases refused
  · intro never
    cases answer with
    | accept spot => exact absurd (verdict_eq_accept_iff.mp answered) (never spot)
    | refuse reason => exact ⟨reason, answered⟩

/-! ## What an attempt does -/

/-- **The board after a guest has been drawn onto a slot**: it lies on the spot with
everything it holds, and is linked. -/
def attach (b : Board) (host guest : BlockId) (slot : Slot) (spot : Point) : Board :=
  (b.snap guest spot).link host guest slot

@[simp] theorem size_attach (b : Board) (host guest : BlockId) (slot : Slot) (spot : Point) :
    (b.attach host guest slot spot).size = b.size := by
  rw [attach, size_link, size_snap]

/-- A guest that fits is attached. -/
theorem attempt_of_fits (h : b.Fits range host guest slot spot) (made : Nat) :
    attempt range host guest (b, made) slot = .ok (b.attach host guest slot spot, made + 1) := by
  unfold attempt
  rw [verdict_eq_accept_iff.mpr h]
  rfl

/-- A guest that is refused changes nothing. -/
theorem attempt_of_refuse {reason : Refusal}
    (h : b.verdict range host guest slot = .ok (.refuse reason)) (made : Nat) :
    attempt range host guest (b, made) slot = .ok (b, made) := by
  unfold attempt
  rw [h]
  rfl

/-- **An attempt attaches a guest that fits, and otherwise changes nothing.** -/
theorem attempt_cases (host_lt : host < b.size) (guest_lt : guest < b.size) (made : Nat) :
    (∃ spot, b.Fits range host guest slot spot ∧
      attempt range host guest (b, made) slot = .ok (b.attach host guest slot spot, made + 1)) ∨
    ((∀ spot, ¬ b.Fits range host guest slot spot) ∧
      attempt range host guest (b, made) slot = .ok (b, made)) := by
  by_cases fits : ∃ spot, b.Fits range host guest slot spot
  · obtain ⟨spot, fits⟩ := fits
    exact .inl ⟨spot, fits, attempt_of_fits fits made⟩
  · have never : ∀ spot, ¬ b.Fits range host guest slot spot := fun spot h => fits ⟨spot, h⟩
    obtain ⟨reason, refused⟩ := (exists_refuse_iff host_lt guest_lt).mpr never
    exact .inr ⟨never, attempt_of_refuse refused made⟩

/-! ## The links afterwards -/

section Links

variable (h : b.Fits range host guest slot spot)

include h in
/-- Attaching records the host with its guest, and changes no other record. -/
theorem Fits.back?_attach (id : BlockId) :
    (b.attach host guest slot spot).back? id = if id = guest then some host else b.back? id := by
  have guest_lt : guest < (b.snap guest spot).size := by
    rw [size_snap]
    exact h.guest_lt
  rw [attach, back?_link h.ne guest_lt, (sameRoles_snap b guest spot).sameLinks.back?]

include h in
/-- Attaching fills the slot with the guest, and changes no other slot. -/
theorem Fits.held?_attach (id : BlockId) (other : Slot) :
    (b.attach host guest slot spot).held? id other
      = if id = host ∧ other = slot then some guest else b.held? id other := by
  have host_lt : host < (b.snap guest spot).size := by
    rw [size_snap]
    exact h.host_lt
  rw [attach, held?_link h.ne host_lt, (sameRoles_snap b guest spot).sameLinks.held?]

/-- **Attaching a guest that fits keeps the board a forest.** -/
theorem Fits.forest_attach (h : b.Fits range host guest slot spot) (hb : b.Forest) :
    (b.attach host guest slot spot).Forest := by
  have same := (sameRoles_snap b guest spot).sameLinks
  have host_lt := h.host_lt
  have guest_lt := h.guest_lt
  rw [same.size_eq] at host_lt guest_lt
  -- the guest fits before it is snapped; the snap changes no link that counts here
  refine (hb.congr same).link h.ne host_lt guest_lt ?_ ?_ ?_
  · rw [← same.held?]
    exact h.empty
  · rw [← same.back?]
    exact h.free
  · rw [← same.above, ← hb.isAbove_iff, h.below]
    exact Bool.false_ne_true

end Links

end SnapBlocks.Board
