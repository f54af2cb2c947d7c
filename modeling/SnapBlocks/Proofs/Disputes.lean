import SnapBlocks.Proofs.Fading

/-!
# Competition for slots

Which of two near blocks gets a slot is decided by the order of the trials, and a block
that has lost may be moved within range of the slot later, or have its rival moved into
the range of another. So matching a settled board again may decide otherwise. Whether
it does can be told from the settled board alone, if the slots in use lie at finite
points: every trial for which the two blocks are near enough must either be a link of
the board or be **forestalled** by links of the board whose trials come before it.

The reason is that such a round goes through boards that differ from the settled one in
their links only, having those whose trials have been made (`Board.PartOf`).
-/

namespace SnapBlocks

/-! ## The order of the trials -/

/-- The place of a slot in the order in which slots are tried. -/
def Slot.rank : Slot → Nat
  | .next => 0
  | .argument => 1
  | .body => 2

/-- **One trial comes before another** in a round: its host has the smaller name, or its
guest has, or its slot is tried first. -/
def Trial.Before (t u : Trial) : Prop :=
  t.host < u.host ∨ t.host = u.host ∧
    (t.guest < u.guest ∨ t.guest = u.guest ∧ t.slot.rank < u.slot.rank)

theorem Trial.Before.asymm {t u : Trial} (h : t.Before u) : ¬ u.Before t := by
  rintro (lt' | ⟨host, lt' | ⟨guest, lt'⟩⟩)
  · rcases h with lt | ⟨host, -⟩
    · exact Nat.lt_asymm lt lt'
    · exact Nat.ne_of_gt lt' host
  · rcases h with lt | ⟨-, lt | ⟨guest, -⟩⟩
    · exact Nat.ne_of_gt lt host
    · exact Nat.lt_asymm lt lt'
    · exact Nat.ne_of_gt lt' guest
  · rcases h with lt | ⟨-, lt | ⟨-, lt⟩⟩
    · exact Nat.ne_of_gt lt host
    · exact Nat.ne_of_gt lt guest
    · exact Nat.lt_asymm lt lt'

namespace Board

variable {b c m s : Board} {range : Float32} {host guest : BlockId} {slot : Slot} {spot : Point}
  {done rest ts : List Trial} {trial other : Trial}

/-- The trials of a round are made in their order. -/
theorem pairwise_trials (b : Board) : b.trials.Pairwise Trial.Before := by
  rw [trials, ids, List.pairwise_flatMap]
  constructor
  · intro host _
    rw [List.pairwise_flatMap]
    constructor
    · intro guest _
      rw [List.pairwise_map]
      have in_order : Slot.all.Pairwise fun p q => p.rank < q.rank := by decide
      exact in_order.imp fun lt => .inr ⟨rfl, .inr ⟨rfl, lt⟩⟩
    · refine List.pairwise_lt_range.imp fun lt t t_mem u u_mem => ?_
      obtain ⟨_, -, rfl⟩ := List.mem_map.mp t_mem
      obtain ⟨_, -, rfl⟩ := List.mem_map.mp u_mem
      exact .inr ⟨rfl, .inl lt⟩
  · refine List.pairwise_lt_range.imp fun lt t t_mem u u_mem => ?_
    obtain ⟨_, -, t_mem⟩ := List.mem_flatMap.mp t_mem
    obtain ⟨_, -, u_mem⟩ := List.mem_flatMap.mp u_mem
    obtain ⟨_, -, rfl⟩ := List.mem_map.mp t_mem
    obtain ⟨_, -, rfl⟩ := List.mem_map.mp u_mem
    exact .inl lt

/-- **The trials made so far are those that come before the next.** -/
theorem mem_done_iff (split : b.trials = done ++ trial :: rest) (mem : other ∈ b.trials) :
    other ∈ done ↔ other.Before trial := by
  have ordered := b.pairwise_trials
  rw [split, List.pairwise_append, List.pairwise_cons] at ordered
  obtain ⟨-, ⟨first, -⟩, before⟩ := ordered
  constructor
  · exact fun done_mem => before other done_mem trial List.mem_cons_self
  · intro is_before
    rw [split, List.mem_append] at mem
    refine mem.resolve_right fun late => ?_
    rcases List.mem_cons.mp late with rfl | late
    · exact is_before.asymm is_before
    · exact (first other late).asymm is_before

/-! ## What draws a guest and what keeps it away -/

/-- **The two blocks of a trial are drawn to each other**: nothing but the links of the
board can be in the way. -/
def Attracts (b : Board) (range : Float32) (trial : Trial) : Prop :=
  trial.host ≠ trial.guest ∧ ∃ kind kind' spot start,
    b.kind? trial.host = some kind ∧ kind.isInline = false ∧
      b.kind? trial.guest = some kind' ∧ trial.slot.accepts kind' = true ∧
        b.spot? trial.host trial.slot = some spot ∧ b.start? trial.guest = some start ∧
          ¬ range ≤ spot.distance start

/-- A guest fits if it is drawn to the slot, the slot is empty, the guest is free and
does not lie above the host. -/
theorem exists_fits_iff : (∃ spot, b.Fits range trial.host trial.guest trial.slot spot) ↔
    b.Attracts range trial ∧ b.held? trial.host trial.slot = none ∧
      b.back? trial.guest = none ∧ b.isAbove trial.guest trial.host = false := by
  constructor
  · rintro ⟨spot, fits⟩
    obtain ⟨owner, found_host, not_inline, -⟩ := fits.host_fits
    obtain ⟨block, found_guest, accepts, near⟩ := fits.guest_fits
    refine ⟨⟨fits.ne, owner.kind, block.kind, spot, block.start, kind?_of_get? found_host,
      not_inline, kind?_of_get? found_guest, accepts, fits.spot?_eq, ?_, near⟩, fits.empty,
      fits.free, fits.below⟩
    rw [start?, found_guest]
    rfl
  · rintro ⟨⟨ne, kind, kind', spot, start, host_kind, not_inline, guest_kind, accepts, at_spot,
      starts, near⟩, empty, free, below⟩
    obtain ⟨owner, found_host, rfl⟩ := Option.map_eq_some_iff.mp host_kind
    obtain ⟨block, found_guest, rfl⟩ := Option.map_eq_some_iff.mp guest_kind
    rw [spot?, found_host] at at_spot
    rw [start?, found_guest] at starts
    cases starts
    exact ⟨spot, ne, ⟨owner, found_host, not_inline, at_spot⟩, ⟨block, found_guest, accepts, near⟩,
      empty, free, below⟩

/-- The link from a host to a guest is there, and its trial comes before another. -/
def HoldsBefore (s : Board) (trial : Trial) (host guest : BlockId) : Prop :=
  ∃ slot, s.held? host slot = some guest ∧ (⟨host, guest, slot⟩ : Trial).Before trial

/-- **The links that come before a trial forestall it**: one of them fills the slot, or
holds the guest, or they put the guest above the host. -/
def Forestalls (s : Board) (trial : Trial) : Prop :=
  (∃ other, s.held? trial.host trial.slot = some other ∧
      (⟨trial.host, other, trial.slot⟩ : Trial).Before trial) ∨
    (∃ holder, s.HoldsBefore trial holder trial.guest) ∨
      Relation.TransGen (s.HoldsBefore trial) trial.guest trial.host

/-- **No link of the board can be disputed**: what else is drawn together is forestalled. -/
def Undisputed (s : Board) (range : Float32) : Prop :=
  ∀ trial ∈ s.trials, s.Attracts range trial →
    s.held? trial.host trial.slot = some trial.guest ∨ s.Forestalls trial

/-- The slots in use lie at finite points, whose coordinates differ from themselves by
zero. -/
def FinitelyLinked (s : Board) : Prop := ∀ host slot guest spot,
  s.held? host slot = some guest → s.spot? host slot = some spot → (spot - spot).isZero = true

/-- All slots in use are on blocks of the board, and can be gone through. -/
instance (s : Board) : Decidable s.FinitelyLinked :=
  decidable_of_iff (∀ host ∈ s.ids, ∀ slot ∈ Slot.all, (s.held? host slot).isSome = true →
      (s.spot? host slot).all (fun spot => (spot - spot).isZero) = true) <| by
    constructor
    · intro all host slot guest spot held at_spot
      have each := all host (mem_ids.mpr (lt_of_held? held)) slot slot.mem_all
      rw [held, at_spot] at each
      exact each rfl
    · intro finite host _ slot _ used
      obtain ⟨guest, held⟩ := Option.isSome_iff_exists.mp used
      cases at_spot : s.spot? host slot with
      | none => rfl
      | some spot => exact finite host slot guest spot held at_spot

/-! ## A round in the middle -/

/-- **The board with only those links of the settled one whose trials have been made.** -/
structure PartOf (c s : Board) (done : List Trial) : Prop where
  /-- Apart from their links the blocks are the same. -/
  places : ∀ id, (c.get? id).map (·.withLinks .none) = (s.get? id).map (·.withLinks .none)
  /-- The links are those whose trials have been made. -/
  held : ∀ host slot guest, c.held? host slot = some guest ↔
    s.held? host slot = some guest ∧ (⟨host, guest, slot⟩ : Trial) ∈ done

/-- A block at a finite point that is snapped to its start stays where it is. -/
theorem snap_start_of_isZero {block : Block} {id : BlockId} (found : b.get? id = some block)
    (finite : (block.start - block.start).isZero = true) : b.snap id block.start = b := by
  refine ext_get? fun other => ?_
  rw [snap, found]
  dsimp only
  rw [carry_of_isZero finite, get?_modify]
  split
  · rename_i same
    subst same
    rw [found]
    rfl
  · rfl

theorem partOf_unlink (s : Board) : s.unlink.PartOf s [] where
  places := fun id => by
    rw [unlink, get?_map, Option.map_map]
    rfl
  held := fun host slot guest => by
    rw [s.unlinked_unlink.held?]
    refine ⟨fun held => ?_, fun held => absurd held.2 List.not_mem_nil⟩
    cases held

namespace PartOf

/-- What does not depend on the links is the same on both boards. -/
theorem bind_eq {α : Type} (part : c.PartOf s done) {read : Block → Option α}
    (blind : ∀ block : Block, read (block.withLinks .none) = read block) (id : BlockId) :
    (c.get? id).bind read = (s.get? id).bind read := by
  have read_eq : ∀ d : Board,
      (d.get? id).bind read = ((d.get? id).map (·.withLinks .none)).bind read := fun d => by
    rw [Option.bind_map]
    exact congrArg _ (funext fun block => (blind block).symm)
  rw [read_eq, part.places, ← read_eq]

theorem kind? (part : c.PartOf s done) (id : BlockId) : c.kind? id = s.kind? id := by
  rw [Board.kind?, Board.kind?, Option.map_eq_bind, Option.map_eq_bind]
  exact part.bind_eq (fun _ => rfl) id

theorem start? (part : c.PartOf s done) (id : BlockId) : c.start? id = s.start? id := by
  rw [Board.start?, Board.start?, Option.map_eq_bind, Option.map_eq_bind]
  exact part.bind_eq (fun _ => rfl) id

theorem spot? (part : c.PartOf s done) (id : BlockId) (slot : Slot) :
    c.spot? id slot = s.spot? id slot :=
  part.bind_eq (fun block => by cases slot <;> rfl) id

theorem size_eq (part : c.PartOf s done) : c.size = s.size :=
  eq_of_forall_lt_iff fun id => by
    have there := congrArg Option.isSome (part.places id)
    rw [Option.isSome_map, Option.isSome_map] at there
    rw [← get?_isSome_iff, ← get?_isSome_iff, there]

theorem grows (part : c.PartOf s done) : c.Grows s :=
  fun host slot guest held => ((part.held host slot guest).mp held).1

/-- The same blocks are drawn to each other on both boards. -/
theorem attracts_iff (part : c.PartOf s done) :
    c.Attracts range trial ↔ s.Attracts range trial := by
  rw [Attracts, Attracts, part.kind?, part.kind?, part.spot?, part.start?]

section Next

variable (part : c.PartOf s done) (hc : c.Forest) (hs : s.Forest)
  (split : s.trials = done ++ trial :: rest)

include part hs split in
/-- A slot holds what it held on the settled board, if the trial comes before the next. -/
theorem held_iff_before (host : BlockId) (slot : Slot) (guest : BlockId) :
    c.held? host slot = some guest ↔
      s.held? host slot = some guest ∧ (⟨host, guest, slot⟩ : Trial).Before trial := by
  rw [part.held]
  refine and_congr_right fun link => mem_done_iff split ?_
  exact mem_trials.mpr ⟨lt_of_held? link, hs.held_lt link⟩

include part hc hs split in
/-- One block holds another if the link comes before the next trial. -/
theorem holds_iff_before (host guest : BlockId) :
    c.back? guest = some host ↔ s.HoldsBefore trial host guest := by
  constructor
  · intro back
    obtain ⟨slot, held, -⟩ := hc.slot_unique back
    exact ⟨slot, (part.held_iff_before hs split host slot guest).mp held⟩
  · rintro ⟨slot, held⟩
    exact hc.back_of_held ((part.held_iff_before hs split host slot guest).mpr held)

include part hc hs split in
/-- **In the next trial the guest is accepted** if it is drawn to the slot and no link
that comes before forestalls it. -/
theorem exists_fits_iff (range : Float32) :
    (∃ spot, c.Fits range trial.host trial.guest trial.slot spot) ↔
      s.Attracts range trial ∧ ¬ s.Forestalls trial := by
  have empty : c.held? trial.host trial.slot = none ↔
      ¬ ∃ other, s.held? trial.host trial.slot = some other ∧
        (⟨trial.host, other, trial.slot⟩ : Trial).Before trial := by
    rw [Option.eq_none_iff_forall_ne_some, not_exists]
    exact forall_congr' fun other => not_congr (part.held_iff_before hs split _ _ other)
  have free : c.back? trial.guest = none ↔ ¬ ∃ holder, s.HoldsBefore trial holder trial.guest := by
    rw [Option.eq_none_iff_forall_ne_some, not_exists]
    exact forall_congr' fun holder => not_congr (part.holds_iff_before hc hs split holder _)
  have below : c.isAbove trial.guest trial.host = false ↔
      ¬ Relation.TransGen (s.HoldsBefore trial) trial.guest trial.host := by
    have holds : c.Holds = s.HoldsBefore trial := funext fun host => funext fun guest =>
      propext (part.holds_iff_before hc hs split host guest)
    rw [Bool.eq_false_iff, Ne, hc.isAbove_iff, Above, holds]
  rw [Board.exists_fits_iff, part.attracts_iff, empty, free, below, Forestalls, not_or, not_or]

end Next

/-- A trial that makes no link, and is of no link of the settled board, may be left out. -/
theorem skip (part : c.PartOf s done) (no_link : s.held? trial.host trial.slot ≠ some trial.guest) :
    c.PartOf s (done ++ [trial]) where
  places := part.places
  held := fun host slot guest => by
    rw [part.held, List.mem_append, List.mem_singleton]
    refine and_congr_right fun link => ⟨.inl, fun mem => mem.resolve_right ?_⟩
    rintro rfl
    exact no_link link

/-- **Making a link of the settled board again moves nothing**, if the slot lies at a
finite point. -/
theorem attach (part : c.PartOf s done) (finite : s.FinitelyLinked) (aligned : s.Aligned)
    (fits : c.Fits range trial.host trial.guest trial.slot spot)
    (link : s.held? trial.host trial.slot = some trial.guest) :
    (c.attach trial.host trial.guest trial.slot spot).PartOf s (done ++ [trial]) := by
  obtain ⟨p, at_spot, starts⟩ := aligned _ _ _ link
  have spot_eq : some p = some spot := by
    rw [← at_spot, ← part.spot?, fits.spot?_eq]
  obtain rfl : p = spot := Option.some.inj spot_eq
  have stays : c.snap trial.guest p = c := by
    rw [← part.start?] at starts
    obtain ⟨block, found, rfl⟩ := Option.map_eq_some_iff.mp starts
    exact snap_start_of_isZero found (finite _ _ _ _ link at_spot)
  constructor
  · intro id
    rw [← part.places, Board.attach, stays]
    exact map_get?_link c _ _ _ (fun _ _ => rfl) id
  · intro host slot guest
    rw [fits.held?_attach, List.mem_append, List.mem_singleton]
    split
    · rename_i at_slot
      obtain ⟨rfl, rfl⟩ := at_slot
      constructor
      · intro same
        cases same
        exact ⟨link, .inr rfl⟩
      · exact fun h => h.1.symm.trans link ▸ rfl
    · rename_i elsewhere
      rw [part.held]
      refine and_congr_right fun _ => ⟨.inl, fun mem => mem.resolve_right ?_⟩
      rintro rfl
      exact elsewhere ⟨rfl, rfl⟩

/-- **When all trials have been made the settled board is back.** -/
theorem eq_of_trials (part : c.PartOf s s.trials) (hc : c.Forest) (hs : s.Forest) : c = s := by
  have back_again : s.Grows c := fun host slot guest link =>
    (part.held host slot guest).mpr ⟨link, mem_trials.mpr ⟨lt_of_held? link, hs.held_lt link⟩⟩
  have same := part.grows.sameLinks back_again hc hs part.size_eq
  refine ext_get? fun id => ?_
  have places := part.places id
  have links := same id
  cases found : c.get? id with
  | none =>
    rw [found] at places
    exact (Option.map_eq_none_iff.mp places.symm).symm
  | some block =>
    rw [found] at places
    obtain ⟨block', found', place_eq⟩ := Option.map_eq_some_iff.mp places.symm
    rw [links?, links?, found, found'] at links
    have links_eq : block.links = block'.links := Option.some.inj links
    have restore : ∀ block : Block, (block.withLinks .none).withLinks block.links = block :=
      fun _ => rfl
    rw [found', ← restore block, ← restore block', place_eq, links_eq]

theorem fadedFrom (part : c.PartOf s done) : c.FadedFrom s where
  start := fun id p starts => ⟨p, (part.start? id).trans starts, .same p⟩
  spot := fun id slot p at_spot => ⟨p, (part.spot? id slot).trans at_spot, .same p⟩

end PartOf

/-! ## The whole round -/

/-- **Trials on part of a settled board**, if they make no other links than those of the
settled board or if these are undisputed: they lead to the settled board, and what else
is drawn together is forestalled. -/
theorem Sound.partOf_of_foldlM_tryOut (hs : s.Sound) (finite : s.FinitelyLinked)
    (pos : ∀ host slot guest, s.held? host slot = some guest → ¬ range ≤ 0) {before made : Nat}
    (split : s.trials = done ++ ts) (hc : c.Forest) (part : c.PartOf s done)
    (run : ts.foldlM (tryOut range) (c, before) = .ok (m, made))
    (fair : m.Grows s ∨ s.Undisputed range) :
    m.PartOf s s.trials ∧ ∀ trial ∈ ts, s.Attracts range trial →
      s.held? trial.host trial.slot = some trial.guest ∨ s.Forestalls trial := by
  induction ts generalizing done c before with
  | nil =>
    cases run
    rw [List.append_nil] at split
    rw [split]
    exact ⟨part, fun _ mem => absurd mem List.not_mem_nil⟩
  | cons trial ts ih =>
    have split_rest : s.trials = (done ++ [trial]) ++ ts := by
      rw [split, List.append_assoc, List.singleton_append]
    have on : ∀ other ∈ trial :: ts, other.On c := by
      intro other mem
      rw [Trial.On, part.size_eq]
      exact mem_trials.mp (split ▸ List.mem_append_right done mem)
    obtain ⟨first_on, rest_on⟩ := List.forall_mem_cons.mp on
    have accepted := part.exists_fits_iff hc hs.forest split range
    rw [List.forall_mem_cons]
    rcases foldlM_tryOut_cons first_on run with ⟨spot, fits, run⟩ | ⟨never, run⟩
    -- a link is made: it is one of the settled board, by assumption or because undisputed
    · have link : s.held? trial.host trial.slot = some trial.guest := by
        rcases fair with grows | undisputed
        · exact grows _ _ _ (fits.held_of_foldlM_tryOut hc rest_on run)
        · obtain ⟨attracts, not_forestalled⟩ := accepted.mp ⟨spot, fits⟩
          have mem : trial ∈ s.trials := split ▸ List.mem_append_right done List.mem_cons_self
          exact (undisputed trial mem attracts).resolve_right not_forestalled
      obtain ⟨whole, rest_forestalled⟩ := ih split_rest (fits.forest_attach hc)
        (part.attach finite hs.aligned fits link) run
      exact ⟨whole, fun _ => .inl link, rest_forestalled⟩
    -- no link is made: then the settled board has none here, for it would be made again
    · have no_link : s.held? trial.host trial.slot ≠ some trial.guest := by
        intro link
        rcases hs.fits_of_faded hc part.kind? part.fadedFrom part.grows (pos _ _ _ link) link with
          held | ⟨spot, fits⟩
        · have before_itself := ((part.held_iff_before hs.forest split _ _ _).mp held).2
          exact before_itself.asymm before_itself
        · exact never spot fits
      obtain ⟨whole, rest_forestalled⟩ := ih split_rest hc (part.skip no_link) run
      refine ⟨whole, fun attracts => .inr (not_not.mp fun not_forestalled => ?_), rest_forestalled⟩
      obtain ⟨spot, fits⟩ := accepted.mpr ⟨attracts, not_forestalled⟩
      exact never spot fits

/-- **A round that matches a settled board again** leads back to it exactly if no link
of the board can be disputed. -/
theorem Sound.round_unlink (hs : s.Sound) (finite : s.FinitelyLinked)
    (pos : ∀ host slot guest, s.held? host slot = some guest → ¬ range ≤ 0) {made : Nat}
    (run : s.unlink.round range = .ok (m, made)) (fair : m.Grows s ∨ s.Undisputed range) :
    m = s ∧ s.Undisputed range := by
  have hc := s.unlinked_unlink.forest
  obtain ⟨hm, -⟩ := hc.of_round (stable_true range) trivial run
  have same_trials : s.unlink.trials = s.trials := by
    rw [trials, trials, ids, ids, size_unlink]
  rw [round_eq_trials, same_trials] at run
  obtain ⟨whole, undisputed⟩ := hs.partOf_of_foldlM_tryOut finite pos (List.nil_append _).symm hc
    s.partOf_unlink run fair
  exact ⟨whole.eq_of_trials hm hs.forest, undisputed⟩

/-- **For a range of zero or less** a round makes no link between finite points again. -/
theorem Sound.made_eq_of_nonpos (hs : s.Sound) (finite : s.FinitelyLinked) (nonpos : range ≤ 0)
    {before made : Nat} (on : ∀ trial ∈ ts, trial.On s.unlink)
    (run : ts.foldlM (tryOut range) (s.unlink, before) = .ok (m, made)) (grows : m.Grows s) :
    made = before := by
  have hc := s.unlinked_unlink.forest
  induction ts with
  | nil =>
    cases run
    rfl
  | cons trial ts ih =>
    obtain ⟨first_on, rest_on⟩ := List.forall_mem_cons.mp on
    rcases foldlM_tryOut_cons first_on run with ⟨spot, fits, run⟩ | ⟨never, run⟩
    · exfalso
      have link := grows _ _ _ (fits.held_of_foldlM_tryOut hc rest_on run)
      obtain ⟨p, at_spot, starts⟩ := hs.aligned _ _ _ link
      obtain ⟨block, found, -, near⟩ := fits.guest_fits
      have spot_eq := fits.spot?_eq
      rw [spot?_unlink, at_spot] at spot_eq
      cases spot_eq
      rw [← start?_unlink, start?, found] at starts
      cases starts
      refine near ?_
      rw [Point.distance, ((Point.Faded.same _).sub (.same _)).norm_eq_zero
        (finite _ _ _ _ link at_spot)]
      exact nonpos
    · exact ih rest_on run

end Board

end SnapBlocks
