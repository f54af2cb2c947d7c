import SnapBlocks.Proofs.Alignment
import SnapBlocks.Proofs.Binary32
import SnapBlocks.Proofs.Growth

/-!
# A settled board is matched again

When a settled board is matched again, its links are cleared, but its blocks lie where
the links have put them. As long as only links of the settled board are made again, a
guest is snapped by a naught displacement, so the board stays `FadedFrom` the settled
one and every other link is still within range. Hence a round that makes no link which
the settled board did not have makes all that it had (`Grows.sameLinks_of_round`),
unless the range is zero or less.
-/

namespace SnapBlocks.Board

variable {b c m s : Board} {range : Float32} {host guest : BlockId} {slot : Slot} {spot : Point}
  {made : Nat}

/-! ## Boards faded from a settled one -/

/-- **All starts and slots of the settled board are there**, faded at worst. -/
structure FadedFrom (c s : Board) : Prop where
  /-- The starts have faded at worst. -/
  start : ∀ id p, s.start? id = some p → ∃ q, c.start? id = some q ∧ q.Faded p
  /-- The slots have faded at worst. -/
  spot : ∀ id slot p, s.spot? id slot = some p → ∃ q, c.spot? id slot = some q ∧ q.Faded p

theorem start?_unlink (b : Board) (id : BlockId) : b.unlink.start? id = b.start? id := by
  rw [start?, unlink, get?_map, Option.map_map]
  rfl

theorem spot?_unlink (b : Board) (id : BlockId) (slot : Slot) :
    b.unlink.spot? id slot = b.spot? id slot := by
  rw [spot?, unlink, get?_map, Option.bind_map, spot?]
  exact congrArg _ (funext fun block => by cases slot <;> rfl)

theorem kind?_unlink (b : Board) (id : BlockId) : b.unlink.kind? id = b.kind? id := by
  rw [kind?, unlink, get?_map, Option.map_map]
  rfl

theorem fadedFrom_unlink (s : Board) : s.unlink.FadedFrom s where
  start := fun id p starts => ⟨p, (s.start?_unlink id).trans starts, .same p⟩
  spot := fun id slot p at_spot => ⟨p, (s.spot?_unlink id slot).trans at_spot, .same p⟩

/-- **Making a link of the settled board again** moves the guest by naught. -/
theorem Fits.fadedFrom_attach (fits : c.Fits range host guest slot spot) (hc : c.Forest)
    (faded : c.FadedFrom s) (lies : s.LiesOn guest host slot) :
    (c.attach host guest slot spot).FadedFrom s := by
  obtain ⟨p, at_spot, starts⟩ := lies
  obtain ⟨block, found, -⟩ := fits.guest_fits
  have start_eq : c.start? guest = some block.start := by rw [start?, found]; rfl
  obtain ⟨q, spot_eq, spot_faded⟩ := faded.spot host slot p at_spot
  obtain rfl : spot = q := Option.some.inj (fits.spot?_eq.symm.trans spot_eq)
  obtain ⟨q, start_eq', start_faded⟩ := faded.start guest p starts
  obtain rfl : block.start = q := Option.some.inj (start_eq.symm.trans start_eq')
  have naught := spot_faded.sub start_faded
  constructor
  · intro id r there
    rw [attach, start?_link]
    by_cases at_guest : id = guest
    -- the start of the guest is set to the slot and has faded no more than the slot has
    · subst at_guest
      obtain rfl : p = r := Option.some.inj (starts.symm.trans there)
      exact ⟨spot, hc.start?_snap_self fits.guest_lt spot, spot_faded⟩
    · obtain ⟨q, q_there, q_faded⟩ := faded.start id r there
      rw [hc.start?_snap_of_ne found spot at_guest, q_there]
      split
      · exact ⟨_, rfl, q_faded.shift naught⟩
      · exact ⟨q, rfl, q_faded⟩
  · intro id other r there
    obtain ⟨q, q_there, q_faded⟩ := faded.spot id other r there
    rw [attach, spot?_link, hc.spot?_snap found, q_there]
    split
    · exact ⟨_, rfl, q_faded.shift naught⟩
    · exact ⟨q, rfl, q_faded⟩

/-! ## The links are made again -/

/-- What is known of a settled board: its links form a forest, lie on their slots and
suit the kinds. -/
structure Sound (s : Board) : Prop where
  /-- The links form a forest. -/
  forest : s.Forest
  /-- Every held block lies on its slot. -/
  aligned : s.Aligned
  /-- Every held block is of a kind for its slot. -/
  suited : s.Suited

/-- A settled board is sound. -/
theorem sound_of_settle {report : Report} (settled : b.settle range = .ok (s, report)) :
    s.Sound := by
  have none_held := b.unlinked_unlink
  obtain ⟨forest, aligned⟩ := of_settle (stable_aligned range) none_held.aligned settled
  obtain ⟨-, suited⟩ := of_settle (stable_suited range)
    (fun host slot guest held => absurd held (by rw [none_held.held?]; exact nofun)) settled
  exact ⟨forest, aligned, suited⟩

/-- Of the blocks of a link of the settled board, the guest is held already, or free,
while the slot is empty. -/
theorem Grows.held_or_free (h : c.Grows s) (hc : c.Forest) (hs : s.Forest)
    (link : s.held? host slot = some guest) :
    c.held? host slot = some guest ∨ c.held? host slot = none ∧ c.back? guest = none := by
  cases held : c.held? host slot with
  | some other =>
    have := (h host slot other held).symm.trans link
    exact .inl (congrArg some (Option.some.inj this))
  | none =>
    refine .inr ⟨rfl, ?_⟩
    by_contra is_held
    obtain ⟨holder, holds⟩ := Option.ne_none_iff_exists'.mp is_held
    obtain ⟨other, holds, -⟩ := hc.slot_unique holds
    obtain ⟨rfl, rfl⟩ := hs.held_inj link (h holder other guest holds)
    rw [held] at holds
    cases holds

/-- **A link of the settled board is made again at its trial**, if it is not there
already, as long as no other links have been made. -/
theorem Sound.fits_of_faded (hs : s.Sound) (hc : c.Forest) (kinds : ∀ id, c.kind? id = s.kind? id)
    (faded : c.FadedFrom s) (grows : c.Grows s) (pos : ¬ range ≤ 0)
    (link : s.held? host slot = some guest) :
    c.held? host slot = some guest ∨ ∃ spot, c.Fits range host guest slot spot := by
  refine (grows.held_or_free hc hs.forest link).imp_right fun ⟨empty, free⟩ => ?_
  obtain ⟨⟨kind, host_kind, not_inline⟩, kind', guest_kind, accepts⟩ :=
    hs.suited host slot guest link
  rw [← kinds] at host_kind guest_kind
  obtain ⟨owner, found_host, rfl⟩ := Option.map_eq_some_iff.mp host_kind
  obtain ⟨block, found_guest, rfl⟩ := Option.map_eq_some_iff.mp guest_kind
  obtain ⟨p, at_spot, starts⟩ := hs.aligned host slot guest link
  obtain ⟨spot, spot_eq, spot_faded⟩ := faded.spot host slot p at_spot
  obtain ⟨start, start_eq, start_faded⟩ := faded.start guest p starts
  rw [spot?, found_host] at spot_eq
  rw [start?, found_guest] at start_eq
  cases start_eq
  have holds := hs.forest.back_of_held link
  refine ⟨spot, ?_, ⟨owner, found_host, not_inline, spot_eq⟩, ⟨block, found_guest, accepts, ?_⟩,
    empty, free, ?_⟩
  · rintro rfl
    exact hs.forest.acyclic host (.single holds)
  -- start and slot were one point on the settled board, so they are near each other still
  · exact (start_faded.sub spot_faded).not_le_norm pos
  · rw [Bool.eq_false_iff, Ne, hc.isAbove_iff]
    intro above
    exact hs.forest.acyclic guest ((grows.above hc hs.forest above).tail holds)

/-- **Trials that make no link but those of the settled board make all of those** that
are among them. -/
theorem Sound.held_of_foldlM_tryOut (hs : s.Sound) (pos : ¬ range ≤ 0) {ts : List Trial}
    {before : Nat} (hc : c.Forest) (kinds : ∀ id, c.kind? id = s.kind? id) (faded : c.FadedFrom s)
    (on : ∀ trial ∈ ts, trial.On c)
    (run : ts.foldlM (tryOut range) (c, before) = .ok (m, made)) (grows : m.Grows s) :
    ∀ trial ∈ ts, s.held? trial.host trial.slot = some trial.guest →
      m.held? trial.host trial.slot = some trial.guest := by
  induction ts generalizing c before with
  | nil => exact fun _ mem => absurd mem List.not_mem_nil
  | cons trial ts ih =>
    have kept := hc.grows_of_foldlM_tryOut on run
    obtain ⟨first_on, rest_on⟩ := List.forall_mem_cons.mp on
    rw [List.forall_mem_cons]
    rcases foldlM_tryOut_cons first_on run with ⟨spot, fits, run⟩ | ⟨never, run⟩
    · -- the link that was made is one of the settled board, so the guest was near its slot
      have made_now := fits.held_of_foldlM_tryOut hc rest_on run
      have lies := hs.aligned _ _ _ (grows _ _ _ made_now)
      refine ⟨fun _ => made_now, ih (fits.forest_attach hc)
        (fun id => (kind?_attach ..).trans (kinds id)) (fits.fadedFrom_attach hc faded lies)
        (fun other mem => on_attach_iff.mpr (rest_on other mem)) run⟩
    · refine ⟨fun link => ?_, ih hc kinds faded rest_on run⟩
      rcases hs.fits_of_faded hc kinds faded (kept.trans grows) pos link with held | ⟨spot, fits⟩
      · exact kept _ _ _ held
      · exact absurd fits (never spot)

/-- **A round that makes no link but those of the settled board makes all of them.** -/
theorem Sound.sameLinks_of_round (hs : s.Sound) (pos : ¬ range ≤ 0)
    (run : s.unlink.round range = .ok (m, made)) (grows : m.Grows s) : m.SameLinks s := by
  have hc := s.unlinked_unlink.forest
  obtain ⟨hm, size_eq, -⟩ := hc.of_round (stable_true range) trivial run
  rw [size_unlink] at size_eq
  refine grows.sameLinks (fun host slot guest link => ?_) hm hs.forest size_eq
  rw [round_eq_trials] at run
  have mem : (⟨host, guest, slot⟩ : Trial) ∈ s.unlink.trials := by
    rw [mem_trials, Trial.On, size_unlink]
    exact ⟨lt_of_held? link, hs.forest.held_lt link⟩
  exact hs.held_of_foldlM_tryOut pos hc s.kind?_unlink s.fadedFrom_unlink
    s.unlink.on_of_mem_trials run grows _ mem link

end SnapBlocks.Board
