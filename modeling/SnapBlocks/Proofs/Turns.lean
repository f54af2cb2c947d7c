import Mathlib.Order.Bounds.Basic
import SnapBlocks.Proofs.Disputes

/-!
# The turn of one host

When a host has its turn, every block is tried on each of its slots, on a board that
changes while this goes on: a guest that is accepted is snapped onto the slot with all that
it holds before the next one is tried. Still, who gets which slot can be told from the
board on which the turn starts. One looks through the guests in order of placement, and for
each through the slots, and gives a slot to a guest that the board at the start accepts for
it, unless the slot or the guest has been given away before (`Board.awarded`). So each slot
goes to the first block that is near enough for it and has not gone to another slot, however
near the others are.

The reason is that nothing a later trial looks at changes with an earlier one. A guest
that has been accepted does not lie above the host, so the host stays where it is, with its
slots and with what is above it; and a block that is still free is in no subtree but its
own, so it stays as well. `MidTurn` is the comparison of the board in the middle of a turn
with that at the start.
-/

namespace SnapBlocks

/-- Whether the guest is accepted. -/
def Verdict.isAccept : Verdict → Bool
  | accept _ => true
  | refuse _ => false

/-- Two trials compete if they are of one guest or for one slot of the same host. -/
def Trial.competes (t u : Trial) : Bool := decide (t.guest = u.guest ∨ t.slot = u.slot)

theorem Trial.competes_eq_false_iff {t u : Trial} :
    t.competes u = false ↔ t.guest ≠ u.guest ∧ t.slot ≠ u.slot := by
  rw [competes, decide_eq_false_iff_not, not_or]

/-! ## First come, first served -/

/-- What has been given away, after one more trial has been looked at. -/
def award (accepts : Trial → Bool) (given : List Trial) (trial : Trial) : List Trial :=
  if accepts trial && !given.any (·.competes trial) then given ++ [trial] else given

section Award

variable {accepts : Trial → Bool} {given ts : List Trial} {trial : Trial}

theorem award_of_accepts (accepted : accepts trial = true)
    (free : ∀ t ∈ given, t.competes trial = false) :
    award accepts given trial = given ++ [trial] := by
  have none_competes : given.any (·.competes trial) = false :=
    List.any_eq_false.mpr fun t mem => Bool.eq_false_iff.mp (free t mem)
  rw [award, accepted, none_competes]
  rfl

theorem award_of_not (not_both : ¬ (accepts trial = true ∧ ∀ t ∈ given, t.competes trial = false)) :
    award accepts given trial = given := by
  rw [award, if_neg]
  rw [Bool.and_eq_true, Bool.not_eq_true', List.any_eq_false]
  exact fun both => not_both ⟨both.1, fun t mem => Bool.eq_false_iff.mpr (both.2 t mem)⟩

/-- **What is given away when trials are looked at in their order**: whatever is accepted
and does not compete with something given away before it. -/
theorem mem_foldl_award_iff (ordered : ts.Pairwise Trial.Before) :
    trial ∈ ts.foldl (award accepts) [] ↔ trial ∈ ts ∧ accepts trial = true ∧
      ∀ t ∈ ts.foldl (award accepts) [], t.Before trial → t.competes trial = false := by
  induction ts using List.reverseRecOn generalizing trial with
  | nil => exact ⟨fun mem => absurd mem List.not_mem_nil, fun h => absurd h.1 List.not_mem_nil⟩
  | append_singleton ts last ih =>
    obtain ⟨ordered, -, before⟩ := List.pairwise_append.mp ordered
    have before_last : ∀ t ∈ ts, t.Before last := fun t mem => before t mem last List.mem_cons_self
    have irrefl : ¬ last.Before last := fun h => h.asymm h
    have given_before : ∀ t ∈ ts.foldl (award accepts) [], t.Before last := fun t mem =>
      before_last t ((ih ordered).mp mem).1
    rw [List.foldl_append, List.foldl_cons, List.foldl_nil, List.mem_append, List.mem_singleton]
    by_cases both : accepts last = true ∧
        ∀ t ∈ ts.foldl (award accepts) [], t.competes last = false
    · rw [award_of_accepts both.1 both.2]
      simp only [List.mem_append, List.mem_singleton]
      constructor
      · rintro (mem | rfl)
        · obtain ⟨listed, accepted, free⟩ := (ih ordered).mp mem
          refine ⟨.inl listed, accepted, ?_⟩
          rintro t (t_mem | rfl) t_before
          · exact free t t_mem t_before
          · exact absurd (before_last trial listed) t_before.asymm
        · refine ⟨.inr rfl, both.1, ?_⟩
          rintro t (t_mem | rfl) t_before
          · exact both.2 t t_mem
          · exact absurd t_before irrefl
      · rintro ⟨listed | rfl, accepted, free⟩
        · exact .inl ((ih ordered).mpr ⟨listed, accepted, fun t mem => free t (.inl mem)⟩)
        · exact .inr rfl
    · rw [award_of_not both]
      constructor
      · intro mem
        obtain ⟨listed, rest⟩ := (ih ordered).mp mem
        exact ⟨.inl listed, rest⟩
      · rintro ⟨listed | rfl, accepted, free⟩
        · exact (ih ordered).mpr ⟨listed, accepted, free⟩
        · exact absurd ⟨accepted, fun t mem => free t mem (given_before t mem)⟩ both

end Award

namespace Board

variable {b c g s : Board} {range : Float32} {host guest id : BlockId} {slot : Slot}
  {trial : Trial} {given ts : List Trial} {made : Nat}

/-- Whether the guest of a trial is accepted on the board. -/
def accepts (b : Board) (range : Float32) (trial : Trial) : Bool :=
  (b.verdict range trial.host trial.guest trial.slot).toOption.any Verdict.isAccept

/-- The trials of one host, in order: each guest by its name, on each slot. -/
def trialsOf (b : Board) (host : BlockId) : List Trial :=
  b.ids.flatMap fun guest => Slot.all.map (Trial.mk host guest)

/-- **What is given away in the turn of a host**, as it is decided on a single board. -/
def awarded (b : Board) (range : Float32) (host : BlockId) : List Trial :=
  (b.trialsOf host).foldl (award (b.accepts range)) []

theorem accepts_iff : b.accepts range trial = true ↔
    ∃ spot, b.Fits range trial.host trial.guest trial.slot spot := by
  simp only [accepts, ← verdict_eq_accept_iff]
  cases b.verdict range trial.host trial.guest trial.slot with
  | error fault => exact ⟨nofun, nofun⟩
  | ok answer =>
    cases answer with
    | accept spot => exact ⟨fun _ => ⟨spot, rfl⟩, fun _ => rfl⟩
    | refuse reason => exact ⟨nofun, nofun⟩

theorem mem_trialsOf : trial ∈ b.trialsOf host ↔ trial.host = host ∧ trial.guest < b.size := by
  unfold trialsOf
  rw [List.mem_flatMap]
  constructor
  · rintro ⟨guest, guest_mem, mem⟩
    obtain ⟨slot, -, rfl⟩ := List.mem_map.mp mem
    exact ⟨rfl, mem_ids.mp guest_mem⟩
  · rintro ⟨rfl, guest_lt⟩
    exact ⟨trial.guest, mem_ids.mpr guest_lt, List.mem_map.mpr ⟨trial.slot, Slot.mem_all _, rfl⟩⟩

/-- The trials of a host are made in their order. -/
theorem pairwise_trialsOf (host_lt : host < b.size) : (b.trialsOf host).Pairwise Trial.Before := by
  have all : b.trials = (b.ids.map b.trialsOf).flatten := List.flatMap_def ..
  refine b.pairwise_trials.sublist ?_
  rw [all]
  exact List.sublist_flatten_of_mem (List.mem_map_of_mem (mem_ids.mpr host_lt))

/-! ## Who gets a slot -/

/-- What is given away is accepted, to a guest that has not got a slot before and for a slot
that has not gone to a guest before. -/
theorem mem_awarded_iff (host_lt : host < b.size) : ⟨host, guest, slot⟩ ∈ b.awarded range host ↔
    b.accepts range ⟨host, guest, slot⟩ = true ∧
      (∀ other < guest, ⟨host, other, slot⟩ ∉ b.awarded range host) ∧
        ∀ earlier : Slot, earlier.rank < slot.rank →
          ⟨host, guest, earlier⟩ ∉ b.awarded range host := by
  have scan : ∀ trial, trial ∈ b.awarded range host ↔ trial ∈ b.trialsOf host ∧
      b.accepts range trial = true ∧
        ∀ t ∈ b.awarded range host, t.Before trial → t.competes trial = false :=
    fun trial => mem_foldl_award_iff (pairwise_trialsOf host_lt)
  constructor
  · intro mem
    obtain ⟨-, accepted, free⟩ := (scan _).mp mem
    refine ⟨accepted, fun other lt given => ?_, fun earlier lt given => ?_⟩
    · have apart := free _ given (.inr ⟨rfl, .inl lt⟩)
      exact (Trial.competes_eq_false_iff.mp apart).2 rfl
    · have apart := free _ given (.inr ⟨rfl, .inr ⟨rfl, lt⟩⟩)
      exact (Trial.competes_eq_false_iff.mp apart).1 rfl
  · rintro ⟨accepted, slot_free, guest_free⟩
    obtain ⟨spot, fits⟩ := accepts_iff.mp accepted
    refine (scan _).mpr ⟨mem_trialsOf.mpr ⟨rfl, fits.guest_lt⟩, accepted, ?_⟩
    rintro ⟨host', other, slot'⟩ given before
    obtain rfl : host' = host := (mem_trialsOf.mp ((scan _).mp given).1).1
    rw [Trial.competes_eq_false_iff]
    rcases before with lt | ⟨-, lt | ⟨rfl, lt⟩⟩
    · exact absurd lt (lt_irrefl _)
    · refine ⟨lt.ne, ?_⟩
      rintro rfl
      exact slot_free other lt given
    · exact absurd given (guest_free slot' lt)

/-- **A slot goes to the first block**, in order of placement, that is accepted for it on the
board and has not gone to a slot that is tried before. -/
theorem mem_awarded_iff_isLeast (host_lt : host < b.size) :
    ⟨host, guest, slot⟩ ∈ b.awarded range host ↔
      IsLeast {other | b.accepts range ⟨host, other, slot⟩ = true ∧ ∀ earlier : Slot,
        earlier.rank < slot.rank → ⟨host, other, earlier⟩ ∉ b.awarded range host} guest := by
  rw [mem_awarded_iff host_lt]
  constructor
  · rintro ⟨accepted, slot_free, guest_free⟩
    refine ⟨⟨accepted, guest_free⟩, fun other ⟨other_accepted, other_free⟩ => ?_⟩
    by_contra later
    -- a block before the guest would have got the slot, unless one before it had
    refine slot_free other (not_le.mp later) ((mem_awarded_iff host_lt).mpr ?_)
    exact ⟨other_accepted, fun first lt => slot_free first (lt.trans (not_le.mp later)), other_free⟩
  · rintro ⟨⟨accepted, guest_free⟩, least⟩
    refine ⟨accepted, fun other lt given => ?_, guest_free⟩
    obtain ⟨other_accepted, -, other_free⟩ := (mem_awarded_iff host_lt).mp given
    exact absurd (least ⟨other_accepted, other_free⟩) (not_le.mpr lt)

/-! ## The board in the middle of a turn -/

/-- **The board in the middle of the turn of a host**, compared with the board on which it
has started: these slots have been given away. What the remaining trials look at is as it
was. -/
structure MidTurn (g : Board) (host : BlockId) (given : List Trial) (c : Board) : Prop where
  /-- The links form a forest. -/
  forest : c.Forest
  /-- The links are those of before and those given away. -/
  held : ∀ id slot guest, c.held? id slot = some guest ↔
    g.held? id slot = some guest ∨ ⟨id, guest, slot⟩ ∈ given
  /-- Only slots of the host are given away. -/
  host_eq : ∀ t ∈ given, t.host = host
  /-- No block has changed its kind. -/
  kind : ∀ id, c.kind? id = g.kind? id
  /-- The slots of the host have not moved. -/
  spot : ∀ slot, c.spot? host slot = g.spot? host slot
  /-- What nothing holds has not moved. -/
  start : ∀ id, c.back? id = none → c.start? id = g.start? id
  /-- The same blocks lie above the host. -/
  above : ∀ top, c.Above top host ↔ g.Above top host

theorem Forest.midTurn (hg : g.Forest) (host : BlockId) : g.MidTurn host [] g where
  forest := hg
  held := fun _ _ _ => ⟨.inl, fun h => h.resolve_right List.not_mem_nil⟩
  host_eq := fun _ mem => absurd mem List.not_mem_nil
  kind := fun _ => rfl
  spot := fun _ => rfl
  start := fun _ _ => rfl
  above := fun _ => .rfl

namespace MidTurn

variable (mid : g.MidTurn host given c) (hg : g.Forest)

include mid hg

/-- What holds a block is what held it before, or the host. -/
theorem back_iff (holder guest : BlockId) : c.back? guest = some holder ↔
    g.back? guest = some holder ∨ ∃ slot, ⟨holder, guest, slot⟩ ∈ given := by
  constructor
  · intro holds
    obtain ⟨slot, link, -⟩ := mid.forest.slot_unique holds
    exact ((mid.held _ _ _).mp link).imp hg.back_of_held fun mem => ⟨slot, mem⟩
  · rintro (holds | ⟨slot, mem⟩)
    · obtain ⟨slot, link, -⟩ := hg.slot_unique holds
      exact mid.forest.back_of_held ((mid.held _ _ _).mpr (.inl link))
    · exact mid.forest.back_of_held ((mid.held _ _ _).mpr (.inr mem))

/-- **A guest is accepted in the middle of the turn** exactly if it was at the start, and
neither it nor the slot has been given away. -/
theorem exists_fits_iff (range : Float32) (guest : BlockId) (slot : Slot) :
    (∃ spot, c.Fits range host guest slot spot) ↔ (∃ spot, g.Fits range host guest slot spot) ∧
      ∀ t ∈ given, t.competes ⟨host, guest, slot⟩ = false := by
  have empty : c.held? host slot = none ↔
      g.held? host slot = none ∧ ∀ t ∈ given, t.slot ≠ slot := by
    simp only [Option.eq_none_iff_forall_ne_some, Ne, mid.held, not_or, forall_and]
    refine and_congr_right fun _ => ⟨?_, ?_⟩
    · rintro never ⟨holder, other, slot'⟩ mem rfl
      obtain rfl : holder = host := mid.host_eq _ mem
      exact never other mem
    · exact fun never other mem => never _ mem rfl
  have free : c.back? guest = none ↔
      g.back? guest = none ∧ ∀ t ∈ given, t.guest ≠ guest := by
    simp only [Option.eq_none_iff_forall_ne_some, Ne, mid.back_iff hg, not_or, forall_and]
    refine and_congr_right fun _ => ⟨?_, ?_⟩
    · rintro never ⟨holder, other, slot'⟩ mem rfl
      exact never holder ⟨slot', mem⟩
    · rintro never holder ⟨slot', mem⟩
      exact never _ mem rfl
  have above : c.isAbove guest host = false ↔ g.isAbove guest host = false := by
    rw [Bool.eq_false_iff, Bool.eq_false_iff, Ne, Ne, mid.forest.isAbove_iff, hg.isAbove_iff,
      mid.above]
  have attracts : c.back? guest = none →
      (c.Attracts range ⟨host, guest, slot⟩ ↔ g.Attracts range ⟨host, guest, slot⟩) := by
    intro unheld
    rw [Attracts, Attracts, mid.kind, mid.kind, mid.spot, mid.start guest unheld]
  have conditions (s : Board) := @Board.exists_fits_iff s range ⟨host, guest, slot⟩
  rw [conditions c, conditions g]
  simp only [Trial.competes_eq_false_iff, imp_and, forall_and]
  constructor
  · rintro ⟨drawn, no_guest, unheld, below⟩
    obtain ⟨old_empty, slot_free⟩ := empty.mp no_guest
    obtain ⟨old_free, guest_free⟩ := free.mp unheld
    exact ⟨⟨(attracts unheld).mp drawn, old_empty, old_free, above.mp below⟩, guest_free, slot_free⟩
  · rintro ⟨⟨drawn, old_empty, old_free, below⟩, guest_free, slot_free⟩
    have unheld := free.mpr ⟨old_free, guest_free⟩
    exact ⟨(attracts unheld).mpr drawn, empty.mpr ⟨old_empty, slot_free⟩, unheld, above.mpr below⟩

omit hg in
/-- **Attaching a guest that fits leads on**: the host and what is free stay in place. -/
theorem attach {spot : Point} (fits : c.Fits range host guest slot spot) :
    g.MidTurn host (given ++ [⟨host, guest, slot⟩]) (c.attach host guest slot spot) where
  forest := fits.forest_attach mid.forest
  held := fun id other member => by
    rw [fits.held?_attach, List.mem_append, List.mem_singleton, ← or_assoc, ← mid.held]
    split
    · rename_i at_slot
      obtain ⟨rfl, rfl⟩ := at_slot
      rw [fits.empty]
      simp [eq_comm]
    · rename_i elsewhere
      refine ⟨.inl, fun h => h.resolve_right ?_⟩
      rintro same
      cases same
      exact elsewhere ⟨rfl, rfl⟩
  host_eq := fun t mem => by
    rcases List.mem_append.mp mem with mem | mem
    · exact mid.host_eq t mem
    · rw [List.mem_singleton.mp mem]
  kind := fun id => (kind?_attach ..).trans (mid.kind id)
  spot := fun other => by
    obtain ⟨block, found, -⟩ := fits.guest_fits
    rw [Board.attach, spot?_link, mid.forest.spot?_snap found,
      if_neg (fits.host_not_mem_subtree mid.forest), mid.spot]
  start := fun id free => by
    rw [fits.back?_attach] at free
    split at free
    · cases free
    · rename_i ne
      obtain ⟨block, found, -⟩ := fits.guest_fits
      have not_below : ¬ c.Above guest id := not_above_of_back? free
      have outside := mid.forest.not_mem_subtree ne not_below
      rw [Board.attach, start?_link, mid.forest.start?_snap_of_ne found spot ne, if_neg outside,
        mid.start id free]
  above := fun top => by
    rw [← mid.above]
    have same := (sameRoles_snap c guest spot).sameLinks
    constructor
    · intro up
      have guest_lt : guest < (c.snap guest spot).size := by
        rw [size_snap]
        exact fits.guest_lt
      rcases above_link fits.ne guest_lt up with old | ⟨-, down⟩
      · rwa [same.above]
      -- the new link does not lead to the host, for the guest does not lie above it
      · exfalso
        rcases Relation.reflTransGen_iff_eq_or_transGen.mp down with eq | above
        · exact fits.ne eq
        · have below := fits.below
          rw [Bool.eq_false_iff, Ne, mid.forest.isAbove_iff, same.above] at below
          exact below above
    · exact ((stable_grows c range).attach mid.forest (.refl c) fits).above mid.forest
        (fits.forest_attach mid.forest)

omit hg in
theorem size_eq : c.size = g.size :=
  eq_of_forall_lt_iff fun id => by
    have there := congrArg Option.isSome (mid.kind id)
    rw [Board.kind?, Board.kind?, Option.isSome_map, Option.isSome_map] at there
    rw [← get?_isSome_iff, ← get?_isSome_iff, there]

/-- **The rest of the turn** gives away what is given away on the board at the start. -/
theorem exists_foldlM_tryOut (range : Float32) (host_lt : host < g.size)
    (within : ∀ t ∈ ts, t.host = host ∧ t.guest < g.size) (made : Nat) :
    ∃ d, ts.foldlM (tryOut range) (c, made + given.length)
        = .ok (d, made + (ts.foldl (award (g.accepts range)) given).length) ∧
      g.MidTurn host (ts.foldl (award (g.accepts range)) given) d := by
  induction ts generalizing given c with
  | nil => exact ⟨c, rfl, mid⟩
  | cons trial ts ih =>
    obtain ⟨⟨rfl, guest_lt⟩, within⟩ := List.forall_mem_cons.mp within
    have on : trial.On c := by
      rw [Trial.On, mid.size_eq]
      exact ⟨host_lt, guest_lt⟩
    have accepted_iff : (∃ spot, c.Fits range trial.host trial.guest trial.slot spot) ↔
        g.accepts range trial = true ∧ ∀ t ∈ given, t.competes trial = false := by
      rw [accepts_iff]
      exact mid.exists_fits_iff hg range trial.guest trial.slot
    rw [List.foldlM_cons, List.foldl_cons]
    rcases tryOut_cases range on (made + given.length) with ⟨spot, fits, tried⟩ | ⟨never, tried⟩
    · obtain ⟨accepted, free⟩ := accepted_iff.mp ⟨spot, fits⟩
      have counted : made + given.length + 1 = made + (given ++ [trial]).length := by
        rw [List.length_append, List.length_singleton, Nat.add_assoc]
      rw [tried, award_of_accepts accepted free, counted]
      exact ih (mid.attach fits) within
    · have not_both := fun both => (accepted_iff.mpr both).elim never
      rw [tried, award_of_not not_both]
      exact ih mid within

end MidTurn

/-! ## The whole turn -/

/-- **The turn of a host on a forest** gives away what is given away on the board on which
it starts. -/
theorem Forest.exists_turn (hg : g.Forest) (range : Float32) (host_lt : host < g.size)
    (made : Nat) : ∃ c, turn range (g, made) host
        = .ok (c, made + (g.awarded range host).length) ∧
      g.MidTurn host (g.awarded range host) c := by
  rw [turn_eq]
  exact (hg.midTurn host).exists_foldlM_tryOut hg range host_lt
    (fun t mem => mem_trialsOf.mp mem) made

/-- The turns of some hosts never fault on a forest, and lead to a forest. -/
theorem Forest.exists_foldlM_turn (hb : b.Forest) (range : Float32) {hosts : List BlockId}
    (within : ∀ host ∈ hosts, host < b.size) : ∃ g made,
      hosts.foldlM (turn range) (b, 0) = .ok (g, made) ∧ g.Forest ∧ g.size = b.size := by
  have all : ∃ sofar, hosts.foldlM (turn range) (b, 0) = .ok sofar ∧
      sofar.1.Forest ∧ sofar.1.size = b.size :=
    exists_foldlM_eq_ok ⟨hb, rfl⟩ fun ⟨g, made⟩ host mem ⟨hg, size_eq⟩ => by
      obtain ⟨c, turned, mid⟩ := hg.exists_turn range (size_eq ▸ within host mem) made
      exact ⟨_, turned, mid.forest, mid.size_eq.trans size_eq⟩
  obtain ⟨⟨g, made⟩, run, hg, size_eq⟩ := all
  exact ⟨g, made, run, hg, size_eq⟩

/-- **First come, first served.** Let a round of matching start on a board that can come up,
or on one on which a round starts while such a board is settled. When a host has its turn
in it, the links that are added are those that are awarded on the board at the start of the
turn: all pairs of a guest and a slot are gone through, guests in order of placement and the
slots of each in their order, and a pair is taken if the board at the start accepts it and
neither its slot nor its guest has been taken before in this turn. So a slot goes to the
first block, in order of placement, that this board accepts for it and that has not gone to
a slot tried before; how near the others are makes no difference. -/
theorem Reachable.turn_first_come (h : Reachable b) (range : Float32)
    (start : s = b ∨ RoundStart range b s) {before after : List BlockId}
    (split : s.ids = before ++ host :: after) :
    ∃ g made c, before.foldlM (turn range) (s, 0) = .ok (g, made) ∧
      turn range (g, made) host = .ok (c, made + (g.awarded range host).length) ∧
      (∀ holder slot guest, c.held? holder slot = some guest ↔
        g.held? holder slot = some guest ∨ ⟨holder, guest, slot⟩ ∈ g.awarded range host) ∧
      (∀ holder guest, c.back? guest = some holder ↔ g.back? guest = some holder ∨
        ∃ slot, ⟨holder, guest, slot⟩ ∈ g.awarded range host) ∧
      (∀ trial ∈ g.awarded range host, trial.host = host) ∧
      ∀ guest slot, ⟨host, guest, slot⟩ ∈ g.awarded range host ↔
        IsLeast {other | g.accepts range ⟨host, other, slot⟩ = true ∧ ∀ earlier : Slot,
          earlier.rank < slot.rank → ⟨host, other, earlier⟩ ∉ g.awarded range host} guest := by
  have hs : s.Forest := by
    rcases start with rfl | start
    · exact h.forest
    · exact start.forest
  have within : ∀ id ∈ before ++ host :: after, id < s.size := fun id mem =>
    mem_ids.mp (split ▸ mem)
  obtain ⟨g, made, run, hg, size_eq⟩ := hs.exists_foldlM_turn range
    fun id mem => within id (List.mem_append_left _ mem)
  have host_lt : host < g.size :=
    size_eq ▸ within host (List.mem_append_right _ List.mem_cons_self)
  obtain ⟨c, turned, mid⟩ := hg.exists_turn range host_lt made
  exact ⟨g, made, c, run, turned, mid.held, mid.back_iff hg, mid.host_eq,
    fun guest slot => mem_awarded_iff_isLeast host_lt⟩

/-- A conditional with two calls below it, of which the second is the nearer one, a call at
its body and a condition beside it. -/
def contested : Board :=
  ((((empty.push ((Block.place (.nest .conditional) .origin).recode "if")).push
    ((Block.place .call ⟨0, 110⟩).recode "first")).push
      ((Block.place .call ⟨0, 116⟩).recode "near")).push
        ((Block.place .call ⟨15, 50⟩).recode "go")).push
          ((Block.place .expression ⟨100, 5⟩).recode "ready")

theorem reachable_contested : contested.Reachable :=
  .push .expression ⟨100, 5⟩ "ready" (.push .call ⟨15, 50⟩ "go" (.push .call ⟨0, 116⟩ "near"
    (.push .call ⟨0, 110⟩ "first" (.push (.nest .conditional) .origin "if" .empty))))

/-- In its turn the conditional gets the first of the two calls, though both are accepted,
and the nearer one is left out. -/
theorem turn_first_come_contested : ∃ c,
    turn standardRange (contested.unlink, 0) 0 = .ok (c, 3) ∧
      contested.unlink.accepts standardRange ⟨0, 1, .next⟩ = true ∧
      contested.unlink.accepts standardRange ⟨0, 2, .next⟩ = true ∧
      c.held? 0 .next = some 1 ∧ c.held? 0 .body = some 3 ∧ c.held? 0 .argument = some 4 ∧
      c.back? 2 = none := by
  have split : contested.unlink.ids = [] ++ 0 :: [1, 2, 3, 4] := by decide +kernel
  obtain ⟨g, made, c, run, turned, held, back, -, -⟩ :=
    reachable_contested.turn_first_come standardRange (.inr .first) split
  cases run
  have free : contested.unlink.back? 2 = none := by decide +kernel
  have given : contested.unlink.awarded standardRange 0
      = [⟨0, 1, .next⟩, ⟨0, 3, .body⟩, ⟨0, 4, .argument⟩] := by
    decide +kernel
  have both : contested.unlink.accepts standardRange ⟨0, 1, .next⟩ = true ∧
      contested.unlink.accepts standardRange ⟨0, 2, .next⟩ = true := by
    decide +kernel
  rw [given] at turned held back
  refine ⟨c, turned, both.1, both.2, (held ..).mpr (.inr ?_), (held ..).mpr (.inr ?_),
    (held ..).mpr (.inr ?_), Option.eq_none_iff_forall_ne_some.mpr fun holder holds => ?_⟩
  · exact List.mem_cons_self
  · exact List.mem_cons_of_mem _ List.mem_cons_self
  · exact List.mem_cons_of_mem _ (List.mem_cons_of_mem _ List.mem_cons_self)
  · rcases (back ..).mp holds with old | ⟨slot, mem⟩
    · rw [free] at old
      cases old
    · simp at mem

end Board

end SnapBlocks
