import SnapBlocks.Proofs.Saturation

/-!
# Links that are made are kept

While a board is settled its links only grow (`Board.Grows`): what a slot holds it goes
on holding, and each link that is added was accepted, so it suits the kinds of both
blocks (`Board.Suited`).

The report on a settled board says nothing that cannot be read off the board itself:
the links are as many as the blocks that are no heads, and every nest has been fitted.
-/

namespace SnapBlocks.Board

variable {b c m s : Board} {range : Float32} {made : Nat}

/-! ## Growth -/

/-- **What a slot of the first board holds, it holds on the second.** -/
def Grows (b c : Board) : Prop :=
  ∀ host slot guest, b.held? host slot = some guest → c.held? host slot = some guest

namespace Grows

theorem refl (b : Board) : b.Grows b := fun _ _ _ held => held

theorem trans {d : Board} (h : b.Grows c) (h' : c.Grows d) : b.Grows d :=
  fun host slot guest held => h' host slot guest (h host slot guest held)

end Grows

theorem SameLinks.grows (h : b.SameLinks c) : b.Grows c :=
  fun host slot _ held => (h.held? host slot).symm.trans held

/-- Settling goes on holding what was held on some board before. -/
theorem stable_grows (b : Board) (range : Float32) : Stable range b.Grows where
  attach := fun {c host guest slot spot} _ grows fits other_host other_slot other held => by
    have kept := grows other_host other_slot other held
    rw [fits.held?_attach, if_neg]
    · exact kept
    · rintro ⟨rfl, rfl⟩
      rw [fits.empty] at kept
      cases kept
  refit := fun {c nest block extent} _ grows _ _ =>
    grows.trans (sameRoles_refit c nest block extent).sameLinks.grows

/-- Trials take no link back. -/
theorem Forest.grows_of_foldlM_tryOut (hb : b.Forest) {ts : List Trial} {before : Nat}
    (on : ∀ trial ∈ ts, trial.On b) (run : ts.foldlM (tryOut range) (b, before) = .ok (m, made)) :
    b.Grows m :=
  (hb.of_foldlM_tryOut (stable_grows b range) (.refl b) on run).2.2

/-- **A link once made is there after the rest of the trials.** -/
theorem Fits.held_of_foldlM_tryOut {host guest : BlockId} {slot : Slot} {spot : Point}
    (fits : b.Fits range host guest slot spot) (hb : b.Forest) {ts : List Trial} {before : Nat}
    (on : ∀ trial ∈ ts, trial.On b)
    (run : ts.foldlM (tryOut range) (b.attach host guest slot spot, before) = .ok (m, made)) :
    m.held? host slot = some guest := by
  refine (fits.forest_attach hb).grows_of_foldlM_tryOut
    (fun trial mem => on_attach_iff.mpr (on trial mem)) run host slot guest ?_
  rw [fits.held?_attach, if_pos ⟨rfl, rfl⟩]

/-- What holds a block goes on holding it. -/
theorem Grows.holds (h : b.Grows c) (hb : b.Forest) (hc : c.Forest) {host guest : BlockId}
    (holds : b.back? guest = some host) : c.back? guest = some host := by
  obtain ⟨slot, held, -⟩ := hb.slot_unique holds
  exact hc.back_of_held (h host slot guest held)

/-- A board that one of the same size grows into has no fewer heads. -/
theorem Grows.length_heads_le (h : b.Grows c) (hb : b.Forest) (hc : c.Forest)
    (size_eq : b.size = c.size) : c.heads.length ≤ b.heads.length := by
  refine List.Sublist.length_le ?_
  rw [heads, heads, ids, ids, size_eq]
  refine List.monotone_filter_right _ fun id free => ?_
  rw [Option.isNone_iff_eq_none] at free ⊢
  by_contra held
  obtain ⟨host, holds⟩ := Option.ne_none_iff_exists'.mp held
  rw [h.holds hb hc holds] at free
  cases free

/-- What lies above a block stays above it. -/
theorem Grows.above (h : b.Grows c) (hb : b.Forest) (hc : c.Forest) {top id : BlockId}
    (above : b.Above top id) : c.Above top id := by
  have holds : b.Holds ≤ c.Holds := fun _ _ holds => h.holds hb hc holds
  exact Relation.TransGen.mono holds _ _ above

/-- Boards that grow into each other have the same links. -/
theorem Grows.sameLinks (h : b.Grows c) (h' : c.Grows b) (hb : b.Forest) (hc : c.Forest)
    (size_eq : b.size = c.size) : b.SameLinks c := by
  have held : ∀ id slot, b.held? id slot = c.held? id slot := fun id slot =>
    Option.ext fun guest => ⟨h id slot guest, h' id slot guest⟩
  have back : ∀ id, b.back? id = c.back? id := fun id =>
    Option.ext fun host => ⟨h.holds hb hc, h'.holds hc hb⟩
  exact sameLinks_of_reads size_eq back held

/-! ## Kinds of the held blocks -/

/-- Attaching a block changes no kind. -/
theorem kind?_attach (b : Board) (host guest : BlockId) (slot : Slot) (spot : Point)
    (id : BlockId) : (b.attach host guest slot spot).kind? id = b.kind? id :=
  (map_get?_link _ host guest slot (fun _ _ => rfl) id).trans
    ((sameRoles_snap b guest spot).kind? id).symm

/-- **Every held block is of a kind for its slot**, and its holder has slots. -/
def Suited (b : Board) : Prop := ∀ host slot guest, b.held? host slot = some guest →
  (∃ kind, b.kind? host = some kind ∧ kind.isInline = false) ∧
    ∃ kind, b.kind? guest = some kind ∧ slot.accepts kind = true

theorem stable_suited (range : Float32) : Stable range Suited where
  attach := fun {c host guest slot spot} _ suited fits other_host other_slot other held => by
    rw [kind?_attach, kind?_attach]
    rw [fits.held?_attach] at held
    split at held
    · rename_i at_slot
      obtain ⟨rfl, rfl⟩ := at_slot
      cases held
      obtain ⟨owner, found_host, not_inline, -⟩ := fits.host_fits
      obtain ⟨block, found_guest, accepts, -⟩ := fits.guest_fits
      exact ⟨⟨owner.kind, kind?_of_get? found_host, not_inline⟩,
        block.kind, kind?_of_get? found_guest, accepts⟩
    · exact suited other_host other_slot other held
  refit := fun {c nest block extent} _ suited _ _ host slot guest held => by
    have same := sameRoles_refit c nest block extent
    rw [← same.sameLinks.held?] at held
    rw [← same.kind?, ← same.kind?]
    exact suited host slot guest held

/-! ## The report -/

/-- Further rounds count the links that they make, and the nests. -/
theorem Forest.count_of_moreRounds (hb : b.Forest) {limit links fitted total last : Nat}
    (run : moreRounds range limit b links fitted = .ok (s, total, last)) :
    total + s.heads.length = links + b.heads.length ∧
      (fitted = b.nests.length → last = s.nests.length) := by
  induction limit generalizing b links fitted with
  | zero =>
    cases run
    exact ⟨rfl, id⟩
  | succ limit ih =>
    obtain ⟨m, made, matched, run⟩ := moreRounds_cases run
    have count := length_heads_of_round matched
    obtain ⟨hm, -⟩ := hb.of_round (stable_true range) trivial matched
    obtain ⟨rfl, rfl, rfl, rfl⟩ | ⟨-, f, fitted', fit, run⟩ := run
    · obtain ⟨-, rfl⟩ := round_eq_zero_iff.mp matched
      exact ⟨rfl, id⟩
    · obtain ⟨hf, -, nests⟩ := hm.of_fitAll (stable_true range) trivial fit
      have same := sameRoles_of_fitAll fit
      obtain ⟨counted, fitted_eq⟩ := ih hf run
      rw [← same.sameLinks.heads_eq] at counted
      exact ⟨by omega, fun _ => fitted_eq (nests.trans (congrArg List.length same.nests_eq))⟩

/-- **The report can be read off the settled board.** -/
theorem report_of_settle {report : Report} (settled : b.settle range = .ok (s, report)) :
    report = ⟨b.size - s.heads.length, s.heads.length, s.nests.length⟩ := by
  obtain ⟨m, made, f, fitted, total, last, matched, fit, reported, ended⟩ :=
    settle_eq_ok_iff.mp settled
  obtain ⟨hm, -⟩ := b.unlinked_unlink.forest.of_round (stable_true range) trivial matched
  obtain ⟨hf, -, nests⟩ := hm.of_fitAll (stable_true range) trivial fit
  have same := sameRoles_of_fitAll fit
  have count := length_heads_of_round matched
  rw [b.unlinked_unlink.length_heads, size_unlink, same.sameLinks.heads_eq] at count
  rw [same.nests_eq] at nests
  rw [reported]
  obtain ⟨rfl, rfl, rfl, rfl⟩ | ⟨-, more⟩ := ended
  · rw [nests, show b.size - s.heads.length = 0 by omega]
  · obtain ⟨counted, fitted_eq⟩ := hf.count_of_moreRounds more
    rw [fitted_eq nests, show total = b.size - s.heads.length by omega]

end SnapBlocks.Board
