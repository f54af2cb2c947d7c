import SnapBlocks.Proofs.Reachable

/-!
# What settling leaves to attach

A board is **saturated** if no guest is accepted by any slot; equivalently, a round
makes no link. Every link uses up a head, so the rounds come to an end before their
number is limited, and they end on a saturated board.

The first round is an exception. If it makes no link, no other round follows, although
the nests have been fitted in between: every bar is then as long as that of an empty
nest, and a bar that was longer or shorter may have brought the foot of its nest near
to another block. That is the only way in which a settled board is not saturated
(`Reachable.saturated_settle_iff`).
-/

namespace SnapBlocks.Board

variable {b c m s : Board} {range : Float32} {host guest id : BlockId} {slot : Slot} {made : Nat}

/-- **No slot of the board accepts any block.** -/
def Saturated (b : Board) (range : Float32) : Prop :=
  ∀ host guest, host < b.size → guest < b.size → ∀ slot,
    ∃ reason, b.verdict range host guest slot = .ok (.refuse reason)

/-- A board that accepts some block is not saturated. -/
theorem not_saturated_of_accept {spot : Point}
    (accepted : b.verdict range host guest slot = .ok (.accept spot)) : ¬ b.Saturated range := by
  intro saturated
  have fits := verdict_eq_accept_iff.mp accepted
  obtain ⟨reason, refused⟩ := saturated host guest fits.host_lt fits.guest_lt slot
  rw [accepted] at refused
  cases refused

theorem saturated_iff_not_fits :
    b.Saturated range ↔ ∀ host guest slot spot, ¬ b.Fits range host guest slot spot := by
  constructor
  · intro saturated host guest slot spot fits
    exact (exists_refuse_iff fits.host_lt fits.guest_lt).mp
      (saturated host guest fits.host_lt fits.guest_lt slot) spot fits
  · intro never host guest host_lt guest_lt slot
    exact (exists_refuse_iff host_lt guest_lt).mpr (never host guest slot)

/-! ## Every link uses up a head -/

/-- Boards with the same links have the same heads. -/
theorem SameLinks.heads_eq (h : b.SameLinks c) : b.heads = c.heads := by
  unfold heads ids
  rw [h.size_eq]
  exact List.filter_congr fun id _ => by rw [h.back?]

/-- On a board without links every block is a head. -/
theorem Unlinked.length_heads (h : b.Unlinked) : b.heads.length = b.size := by
  rw [heads, List.filter_eq_self.mpr fun id _ => by rw [h.back?]; rfl, ids, List.length_range]

/-- Attaching a guest takes it off the heads. -/
theorem Fits.length_heads_attach {spot : Point} (h : b.Fits range host guest slot spot) :
    (b.attach host guest slot spot).heads.length + 1 = b.heads.length := by
  have nodup : b.heads.Nodup := List.nodup_range.filter _
  have was_head : guest ∈ b.heads := mem_heads.mpr ⟨h.guest_lt, h.free⟩
  have heads_eq : (b.attach host guest slot spot).heads = b.heads.erase guest := by
    rw [nodup.erase_eq_filter, heads, heads, ids, size_attach, List.filter_filter]
    refine List.filter_congr fun id _ => ?_
    rw [h.back?_attach]
    by_cases at_guest : id = guest
    · rw [if_pos at_guest, at_guest, bne_self_eq_false, Bool.false_and]
      rfl
    · rw [if_neg at_guest, bne_iff_ne.mpr at_guest, Bool.true_and]
  rw [heads_eq, List.length_erase_of_mem was_head]
  have := List.length_pos_of_mem was_head
  omega

/-- **Trials that make no link change nothing**, and were all refused; each link made
takes one block off the heads. -/
theorem length_heads_of_foldlM_tryOut {ts : List Trial} {before : Nat}
    (on : ∀ trial ∈ ts, trial.On b)
    (run : ts.foldlM (tryOut range) (b, before) = .ok (m, made)) :
    m.heads.length + made = b.heads.length + before ∧ before ≤ made ∧
      (made = before → m = b ∧
        ∀ trial ∈ ts, ∀ spot, ¬ b.Fits range trial.host trial.guest trial.slot spot) := by
  induction ts generalizing b before with
  | nil =>
    cases run
    exact ⟨rfl, le_rfl, fun _ => ⟨rfl, fun _ mem => absurd mem List.not_mem_nil⟩⟩
  | cons trial ts ih =>
    obtain ⟨first_on, rest_on⟩ := List.forall_mem_cons.mp on
    rcases foldlM_tryOut_cons first_on run with ⟨spot, fits, run⟩ | ⟨never, run⟩
    · have heads := fits.length_heads_attach
      obtain ⟨count, le, -⟩ := ih (fun other mem => on_attach_iff.mpr (rest_on other mem)) run
      exact ⟨by omega, by omega, fun same => by omega⟩
    · obtain ⟨count, le, none_made⟩ := ih rest_on run
      refine ⟨count, le, fun same => ⟨(none_made same).1, fun other mem => ?_⟩⟩
      rcases List.mem_cons.mp mem with rfl | mem
      · exact never
      · exact (none_made same).2 other mem

/-- Each link that a round makes takes one block off the heads. -/
theorem length_heads_of_round (run : b.round range = .ok (m, made)) :
    m.heads.length + made = b.heads.length := by
  rw [round_eq_trials] at run
  exact (length_heads_of_foldlM_tryOut b.on_of_mem_trials run).1

/-- **A round makes no link exactly on a saturated board**, and changes nothing there. -/
theorem round_eq_zero_iff : b.round range = .ok (m, 0) ↔ b.Saturated range ∧ m = b := by
  rw [round_eq_trials, saturated_iff_not_fits]
  constructor
  · intro run
    obtain ⟨-, -, none_made⟩ := length_heads_of_foldlM_tryOut b.on_of_mem_trials run
    obtain ⟨same, never⟩ := none_made rfl
    refine ⟨fun host guest slot spot fits => ?_, same⟩
    exact never ⟨host, guest, slot⟩ (mem_trials.mpr ⟨fits.host_lt, fits.guest_lt⟩) spot fits
  · rintro ⟨never, rfl⟩
    obtain ⟨_, run, rfl⟩ := exists_foldlM_eq_ok (f := tryOut range) (l := m.trials)
      (P := (· = (m, 0))) rfl fun _ trial mem same => by
        rcases tryOut_cases range (mem_trials.mp mem) 0 with ⟨spot, fits, -⟩ | ⟨-, tried⟩
        · exact absurd fits (never _ _ _ spot)
        · exact ⟨_, same ▸ tried, rfl⟩
    exact run

/-! ## The rounds end on a saturated board -/

/-- **Rounds end on a saturated board** if more of them are allowed than there are
heads, for each that is not the last uses up a head. -/
theorem saturated_of_moreRounds {limit links fitted total last : Nat}
    (enough : b.heads.length < limit)
    (run : moreRounds range limit b links fitted = .ok (s, total, last)) : s.Saturated range := by
  induction limit generalizing b links fitted with
  | zero => omega
  | succ limit ih =>
    obtain ⟨m, made, matched, ⟨rfl, rfl, -⟩ | ⟨some_made, f, count, fit, run⟩⟩ :=
      moreRounds_cases run
    · obtain ⟨saturated, rfl⟩ := round_eq_zero_iff.mp matched
      exact saturated
    -- fewer heads are left for the rounds after this one, and fewer rounds are needed
    · refine ih ?_ run
      rw [← (sameRoles_of_fitAll fit).sameLinks.heads_eq]
      have := length_heads_of_round matched
      omega

/-- A settling whose first round makes a link ends on a saturated board. -/
theorem saturated_of_settle {report : Report} (settled : b.settle range = .ok (s, report))
    (first : ¬ b.unlink.Saturated range) : s.Saturated range := by
  obtain ⟨m, made, f, fitted, total, last, matched, fit, -, ⟨rfl, -⟩ | ⟨some_made, more⟩⟩ :=
    settle_eq_ok_iff.mp settled
  · exact absurd (round_eq_zero_iff.mp matched).1 first
  · refine saturated_of_moreRounds ?_ more
    rw [← (sameRoles_of_fitAll fit).sameLinks.heads_eq]
    have count := length_heads_of_round matched
    rw [b.unlinked_unlink.length_heads, size_unlink] at count
    omega

/-! ## Fitting empty nests -/

/-- The block has a mouth exactly if it is a nest. -/
def Shaped (block : Block) : Prop := block.mouth.isSome = block.kind.hasBody

/-- Nests and no other blocks have a mouth, on all boards that can come up. -/
theorem lasting_shaped : Lasting Shaped where
  place := fun kind origin => by cases kind <;> rfl
  recode := fun _ h => h
  translate := fun {block} delta h => by
    rw [Shaped, Block.translate, Option.isSome_map]
    exact h
  pin := fun _ h => h
  resize := fun {block} extent h => by
    rw [Shaped, Block.kind_resize, ← h]
    unfold Block.resize
    split
    · rfl
    · rename_i mouth open_side
      rw [open_side]
      rfl
  withLinks := fun _ h => h

/-- The nests have a mouth. -/
theorem isSome_mouth_of_mem_nests (shaped : b.All Shaped) {nest : BlockId} {block : Block}
    (mem : nest ∈ b.nests) (found : b.get? nest = some block) : block.mouth.isSome := by
  obtain ⟨block', found', hasBody⟩ := mem_nests.mp mem
  cases found.symm.trans found'
  exact (shaped nest block found).trans hasBody

/-- Boards with the same blocks are the same. -/
theorem ext_get? (h : ∀ id, b.get? id = c.get? id) : b = c :=
  congrArg Board.mk (Array.ext_getElem? h)

/-- Without links the bar that fits any nest is that of an empty one. -/
theorem Unlinked.fittingExtent_eq (h : b.Unlinked) (nest : BlockId) :
    b.fittingExtent nest = .ok emptyExtent := by
  have nothing : emptyExtent + ([] : List Float32).foldl (· + ·) 0 = emptyExtent := by
    decide +kernel
  rw [fittingExtent, interior, h.held?, chain_none]
  exact congrArg Except.ok nothing

/-- Without links, fitting a block gives it the bar of an empty nest. -/
theorem Unlinked.fit_eq (h : b.Unlinked) {nest : BlockId} (lt : nest < b.size) :
    b.fit nest = .ok (b.modify nest (·.resize emptyExtent)) := by
  obtain ⟨block, found⟩ := exists_get? lt
  have no_follower : block.links.next = none :=
    (held?_of_get? found .next).symm.trans (h.held? nest .next)
  rw [fit_of_fittingExtent found (h.fittingExtent_eq nest), refit, no_follower]

/-- Without links, fitting blocks one after the other gives each of them the bar of an
empty nest. -/
theorem Unlinked.foldlM_fit_eq (h : b.Unlinked) {ids : List BlockId}
    (within : ∀ nest ∈ ids, nest < b.size) : ids.foldlM fit b
      = .ok (ids.foldl (fun board id => board.modify id (·.resize emptyExtent)) b) := by
  induction ids generalizing b with
  | nil => rfl
  | cons first ids ih =>
    rw [List.foldlM_cons, h.fit_eq (within first List.mem_cons_self)]
    refine ih ?_ fun nest mem => ?_
    · intro id links found
      rw [← (sameLinks_modify b first fun block => block.links_resize emptyExtent) id] at found
      exact h id links found
    · rw [size_modify]
      exact within nest (List.mem_cons_of_mem _ mem)

/-- Giving all nests a bar is giving it to all blocks, for the others have no mouth. -/
theorem foldl_resize_eq_map (shaped : b.All Shaped) {ids : List BlockId} (perm : ids.Perm b.nests)
    (extent : Float32) : ids.foldl (fun board id => board.modify id (·.resize extent)) b
      = b.map (·.resize extent) := by
  have nodup : ids.Nodup := perm.nodup_iff.mpr b.nodup_nests
  refine ext_get? fun id => ?_
  rw [get?_foldl_modify nodup, get?_map]
  split
  · rfl
  · rename_i not_nest
    cases found : b.get? id with
    | none => rfl
    | some block =>
      have no_mouth : block.mouth = none := by
        rw [← Option.not_isSome_iff_eq_none, shaped id block found]
        exact fun hasBody => not_nest (perm.mem_iff.mpr (mem_nests.mpr ⟨block, found, hasBody⟩))
      rw [Option.map_some, Block.resize, no_mouth]

/-- **Without links, fitting all nests gives each the bar of an empty one**, and leaves
the other blocks alone, for they have no mouth. -/
theorem Unlinked.fitAll_eq (h : b.Unlinked) (shaped : b.All Shaped) :
    b.fitAll = .ok (b.map (·.resize emptyExtent), b.nests.length) := by
  obtain ⟨order, ordered, perm⟩ := h.forest.exists_fittingOrder
  have within : ∀ nest ∈ order, nest < b.size := fun _ mem =>
    lt_of_mem_nests (perm.mem_iff.mp mem)
  rw [fitAll, ordered]
  dsimp only [bind, Except.bind]
  rw [h.foldlM_fit_eq within, foldl_resize_eq_map shaped perm, ← perm.length_eq]
  rfl

/-- **When a settled board accepts no more blocks.** It does so whenever the first round
made a link. If no block was near any slot to begin with, what counts is whether one is
when the links are cleared and all bars are those of empty nests. -/
theorem Reachable.saturated_settle_iff {report : Report} (h : Reachable b)
    (settled : b.settle range = .ok (s, report)) : s.Saturated range ↔
      (b.unlink.Saturated range → (b.unlink.map (·.resize emptyExtent)).Saturated range) := by
  by_cases first : b.unlink.Saturated range
  · obtain ⟨m, made, f, fitted, total, last, matched, fit, -, ended⟩ := settle_eq_ok_iff.mp settled
    obtain ⟨rfl, rfl⟩ := ok_unique matched (round_eq_zero_iff.mpr ⟨first, rfl⟩)
    rw [b.unlinked_unlink.fitAll_eq (h.unlink.all lasting_shaped)] at fit
    cases fit
    obtain ⟨-, rfl, -⟩ | ⟨some_made, -⟩ := ended
    · exact ⟨fun saturated _ => saturated, fun saturated => saturated first⟩
    · exact absurd rfl some_made
  · exact ⟨fun _ saturated => absurd saturated first, fun _ => saturated_of_settle settled first⟩

/-! ## A bar that was too long -/

/-- A conditional with a bar five times as long as it should be, and a call where the
foot of the conditional is going to be. -/
def longBar : Board :=
  ((empty.push (Block.place (.nest .conditional) .origin)).modify 0 (·.resize 250)).push
    (Block.place .call ⟨0, 117⟩)

theorem reachable_longBar : longBar.Reachable :=
  .push .call ⟨0, 117⟩ "" (.resize 0 250 (.push (.nest .conditional) .origin "if" .empty))

/-- Settling shortens the bar after the only round, and leaves the call unattached at
the new foot of it. -/
theorem settle_longBar : ∃ s report, longBar.settle standardRange = .ok (s, report) ∧
    s.verdict standardRange 0 1 .next = .ok (.accept (Mouth.place .conditional .origin).finish) := by
  have run : ((longBar.settle standardRange).toOption.bind fun settled =>
      (settled.1.verdict standardRange 0 1 .next).toOption)
        = some (.accept (Mouth.place .conditional .origin).finish) := by
    decide +kernel
  obtain ⟨⟨s, report⟩, settled, accepted⟩ := Option.bind_eq_some_iff.mp run
  exact ⟨s, report, eq_ok_of_toOption settled, eq_ok_of_toOption accepted⟩

/-- The settled board accepts the call. So no block was near any slot while the bar was long,
and one is near now that it has the length of an empty one. -/
theorem saturated_settle_longBar : ∃ s report,
    longBar.settle standardRange = .ok (s, report) ∧ ¬ s.Saturated standardRange ∧
      longBar.unlink.Saturated standardRange ∧
      ¬ (longBar.unlink.map (·.resize emptyExtent)).Saturated standardRange := by
  obtain ⟨s, report, settled, accepted⟩ := settle_longBar
  have accepts := not_saturated_of_accept accepted
  obtain ⟨at_first, now⟩ := Classical.not_imp.mp fun follows =>
    accepts ((reachable_longBar.saturated_settle_iff settled).mpr follows)
  exact ⟨s, report, settled, accepts, at_first, now⟩

/-- **A settled board may accept another block.** -/
theorem not_forall_settle_saturated : ¬ ∀ (b s : Board) (range : Float32) (report : Report),
    b.Reachable → b.settle range = .ok (s, report) → s.Saturated range := by
  intro always
  obtain ⟨s, report, settled, accepted⟩ := settle_longBar
  exact not_saturated_of_accept accepted (always _ _ _ _ reachable_longBar settled)

end SnapBlocks.Board
