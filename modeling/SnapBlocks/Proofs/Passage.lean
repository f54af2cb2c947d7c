import SnapBlocks.Proofs.Fitting

/-!
# What settling passes through

A round of matching is three loops inside each other. Written out, it is one list of
trials, `Board.trials`, made one after the other; a board in the middle of a round is
what the first few trials lead to. In the same way a board in the middle of the
fitting is what fitting the first few nests leads to. `Board.Passes` collects these
boards, with those between a snap and the link that follows it, and between a bar's
new length and the snap that follows that.

Each trial attaches a guest that fits or does nothing, and each nest is refitted, so
whatever these two kinds of steps keep is true of the settled board. A forest is kept
by both; hence no step of a settling ever faults.
-/

namespace SnapBlocks

/-- **One trial of a round**: a guest is tried on a slot of a host. -/
structure Trial where
  /-- The block that owns the slot. -/
  host : BlockId
  /-- The block that is tried on it. -/
  guest : BlockId
  /-- The slot. -/
  slot : Slot
deriving DecidableEq

/-- Both blocks of the trial are on the board. -/
def Trial.On (trial : Trial) (b : Board) : Prop := trial.host < b.size ∧ trial.guest < b.size

namespace Board

variable {b c m s : Board} {range : Float32} {trial : Trial} {ts : List Trial}

/-! ## A round as a list of trials -/

/-- The trials of one round, in order: for each host, each guest on each slot. -/
def trials (b : Board) : List Trial :=
  b.ids.flatMap fun host => b.ids.flatMap fun guest => Slot.all.map (Trial.mk host guest)

/-- One trial is made. With the board goes the number of links made. -/
def tryOut (range : Float32) (sofar : Board × Nat) (trial : Trial) : Except Fault (Board × Nat) :=
  attempt range trial.host trial.guest sofar trial.slot

/-- In a round every block is tried on every slot of every block. -/
theorem mem_trials : trial ∈ b.trials ↔ trial.On b := by
  unfold trials
  rw [List.mem_flatMap]
  constructor
  · rintro ⟨host, host_mem, mem⟩
    obtain ⟨guest, guest_mem, mem⟩ := List.mem_flatMap.mp mem
    obtain ⟨slot, -, rfl⟩ := List.mem_map.mp mem
    exact ⟨mem_ids.mp host_mem, mem_ids.mp guest_mem⟩
  · rintro ⟨host_lt, guest_lt⟩
    exact ⟨trial.host, mem_ids.mpr host_lt, List.mem_flatMap.mpr
      ⟨trial.guest, mem_ids.mpr guest_lt, List.mem_map.mpr ⟨trial.slot, Slot.mem_all _, rfl⟩⟩⟩

theorem on_of_mem_trials (b : Board) : ∀ trial ∈ b.trials, trial.On b :=
  fun _ mem => mem_trials.mp mem

/-- No attempt changes the number of blocks. -/
theorem size_of_attempt {host guest : BlockId} {slot : Slot} {sofar after : Board × Nat}
    (h : attempt range host guest sofar slot = .ok after) : after.1.size = sofar.1.size := by
  obtain ⟨answer, -, h⟩ := bind_eq_ok h
  cases answer with
  | accept spot =>
    cases h
    exact size_attach _ host guest slot spot
  | refuse reason =>
    cases h
    rfl

/-- Trying a guest on every slot of a host is three trials. -/
theorem offer_eq (range : Float32) (host guest : BlockId) (sofar : Board × Nat) :
    offer range host sofar guest
      = (Slot.all.map (Trial.mk host guest)).foldlM (tryOut range) sofar :=
  List.foldlM_map.symm

/-- The turn of one host is a list of trials. -/
theorem turn_eq (range : Float32) (sofar : Board × Nat) (host : BlockId) :
    turn range sofar host = (sofar.1.ids.flatMap fun guest =>
      Slot.all.map (Trial.mk host guest)).foldlM (tryOut range) sofar := by
  rw [turn, foldlM_flatMap]
  exact congrArg (fun f => sofar.1.ids.foldlM f sofar)
    (funext fun sofar => funext fun guest => offer_eq range host guest sofar)

theorem size_of_turn {host : BlockId} {sofar after : Board × Nat}
    (h : turn range sofar host = .ok after) : after.1.size = sofar.1.size := by
  rw [turn_eq] at h
  exact foldlM_induction (P := fun after => after.1.size = sofar.1.size) h rfl
    fun _ _ _ _ same step => (size_of_attempt step).trans same

/-- **A round is the list of its trials**, made one after the other. -/
theorem round_eq_trials (b : Board) (range : Float32) :
    b.round range = b.trials.foldlM (tryOut range) (b, 0) := by
  rw [round, trials, foldlM_flatMap]
  refine foldlM_congr (P := fun sofar => sofar.1.size = b.size) rfl ?_ ?_
  · intro sofar host same
    rw [turn_eq, ids, same]
    rfl
  · intro sofar host after same step
    exact (size_of_turn step).trans same

/-! ## What the loops do -/

/-- Attaching a block takes no block off the board. -/
theorem on_attach_iff {host guest : BlockId} {slot : Slot} {spot : Point} :
    trial.On (b.attach host guest slot spot) ↔ trial.On b := by
  rw [Trial.On, size_attach, Trial.On]

/-- **A trial attaches a guest that fits, and otherwise changes nothing.** -/
theorem tryOut_cases (range : Float32) (on : trial.On b) (made : Nat) :
    (∃ spot, b.Fits range trial.host trial.guest trial.slot spot ∧
      tryOut range (b, made) trial
        = .ok (b.attach trial.host trial.guest trial.slot spot, made + 1)) ∨
    ((∀ spot, ¬ b.Fits range trial.host trial.guest trial.slot spot) ∧
      tryOut range (b, made) trial = .ok (b, made)) :=
  attempt_cases on.1 on.2 made

/-- **What the first of several trials leads to**: the rest of them are made on the board
with the guest attached, if it fits, and else on the same board. -/
theorem foldlM_tryOut_cons {before made : Nat} (on : trial.On b)
    (run : (trial :: ts).foldlM (tryOut range) (b, before) = .ok (m, made)) :
    (∃ spot, b.Fits range trial.host trial.guest trial.slot spot ∧
      ts.foldlM (tryOut range) (b.attach trial.host trial.guest trial.slot spot, before + 1)
        = .ok (m, made)) ∨
    ((∀ spot, ¬ b.Fits range trial.host trial.guest trial.slot spot) ∧
      ts.foldlM (tryOut range) (b, before) = .ok (m, made)) := by
  rw [List.foldlM_cons] at run
  rcases tryOut_cases range on before with ⟨spot, fits, tried⟩ | ⟨never, tried⟩
  · rw [tried] at run
    exact .inl ⟨spot, fits, run⟩
  · rw [tried] at run
    exact .inr ⟨never, run⟩

/-- **What one of the further rounds leads to**: if it makes no link the loop ends, else
the nests are fitted and it goes on. -/
theorem moreRounds_cases {limit links fitted total last : Nat}
    (run : moreRounds range (limit + 1) b links fitted = .ok (s, total, last)) :
    ∃ m made, b.round range = .ok (m, made) ∧
      (made = 0 ∧ s = m ∧ total = links ∧ last = fitted ∨ made ≠ 0 ∧ ∃ f count,
        m.fitAll = .ok (f, count) ∧
          moreRounds range limit f (links + made) count = .ok (s, total, last)) := by
  obtain ⟨⟨m, made⟩, matched, run⟩ := bind_eq_ok run
  refine ⟨m, made, matched, ?_⟩
  dsimp only at run
  split at run
  · rename_i none_made
    cases run
    exact .inl ⟨none_made, rfl, rfl, rfl⟩
  · rename_i some_made
    obtain ⟨⟨f, count⟩, fit, run⟩ := bind_eq_ok run
    exact .inr ⟨some_made, f, count, fit, run⟩

/-- **What settling leads to**: after one round and one fitting it is over if the round
made no link, else further rounds follow. -/
theorem settle_eq_ok_iff {report : Report} : b.settle range = .ok (s, report) ↔
    ∃ m made f fitted total last, b.unlink.round range = .ok (m, made) ∧
      m.fitAll = .ok (f, fitted) ∧ report = ⟨total, s.heads.length, last⟩ ∧
        (made = 0 ∧ s = f ∧ total = 0 ∧ last = fitted ∨
          made ≠ 0 ∧ moreRounds range b.size f made fitted = .ok (s, total, last)) := by
  constructor
  · intro settled
    obtain ⟨⟨m, made⟩, matched, settled⟩ := bind_eq_ok settled
    obtain ⟨⟨f, fitted⟩, fit, settled⟩ := bind_eq_ok settled
    dsimp only at settled
    split at settled
    · rename_i none_made
      cases settled
      exact ⟨m, made, _, _, _, _, matched, fit, rfl, .inl ⟨none_made, rfl, none_made, rfl⟩⟩
    · rename_i some_made
      obtain ⟨⟨s', total, last⟩, more, settled⟩ := bind_eq_ok settled
      cases settled
      exact ⟨m, made, f, fitted, total, last, matched, fit, rfl, .inr ⟨some_made, more⟩⟩
  · rintro ⟨m, made, f, fitted, total, last, matched, fit, rfl, ended⟩
    rw [settle, matched]
    dsimp only [bind, Except.bind]
    rw [fit]
    dsimp only
    rcases ended with ⟨rfl, rfl, rfl, rfl⟩ | ⟨some_made, more⟩
    · rfl
    · rw [if_neg some_made, more]
      rfl

/-! ## What every step keeps -/

/-- **A property that settling keeps**: it stays when a guest that fits is attached,
and when a nest is fitted to its body. -/
structure Stable (range : Float32) (P : Board → Prop) : Prop where
  /-- Attaching keeps the property. -/
  attach : ∀ {b host guest slot spot}, b.Forest → P b → b.Fits range host guest slot spot →
    P (b.attach host guest slot spot)
  /-- Fitting a nest keeps the property. -/
  refit : ∀ {b nest block extent}, b.Forest → P b → b.get? nest = some block →
    b.fittingExtent nest = .ok extent → P (b.refit nest block extent)

/-- Nothing is asked of the boards. -/
theorem stable_true (range : Float32) : Stable range fun _ => True :=
  ⟨fun _ _ _ => trivial, fun _ _ _ _ => trivial⟩

/-- What is kept each by itself is kept together. -/
theorem Stable.and {P Q : Board → Prop} (h : Stable range P) (h' : Stable range Q) :
    Stable range fun b => P b ∧ Q b where
  attach := fun hb both fits => ⟨h.attach hb both.1 fits, h'.attach hb both.2 fits⟩
  refit := fun hb both found measured =>
    ⟨h.refit hb both.1 found measured, h'.refit hb both.2 found measured⟩

section Run

variable {P : Board → Prop} (stable : Stable range P)

include stable

/-- **Trials on a forest never fault**, lead to a forest, and keep what is stable. -/
theorem Forest.exists_foldlM_tryOut (hb : b.Forest) (hP : P b) (made : Nat)
    (on : ∀ trial ∈ ts, trial.On b) : ∃ m n, ts.foldlM (tryOut range) (b, made) = .ok (m, n) ∧
      m.Forest ∧ m.size = b.size ∧ P m := by
  induction ts generalizing b made with
  | nil => exact ⟨b, made, rfl, hb, rfl, hP⟩
  | cons trial ts ih =>
    obtain ⟨first_on, rest_on⟩ := List.forall_mem_cons.mp on
    rw [List.foldlM_cons]
    rcases tryOut_cases range first_on made with
      ⟨spot, fits, tried⟩ | ⟨-, tried⟩
    · rw [tried]
      obtain ⟨m, n, run, hm, size_eq, hPm⟩ := ih (fits.forest_attach hb) (stable.attach hb hP fits)
        (made + 1) fun other mem => on_attach_iff.mpr (rest_on other mem)
      exact ⟨m, n, run, hm, size_eq.trans (size_attach ..), hPm⟩
    · rw [tried]
      exact ih hb hP made rest_on

/-- What trials on a forest lead to. -/
theorem Forest.of_foldlM_tryOut (hb : b.Forest) (hP : P b) {made n : Nat}
    (on : ∀ trial ∈ ts, trial.On b)
    (run : ts.foldlM (tryOut range) (b, made) = .ok (m, n)) : m.Forest ∧ m.size = b.size ∧ P m := by
  obtain ⟨m', n', run', kept⟩ := hb.exists_foldlM_tryOut stable hP made on
  obtain ⟨rfl, -⟩ := ok_unique run run'
  exact kept

/-- **A round on a forest never faults**, leads to a forest, and keeps what is stable. -/
theorem Forest.exists_round (hb : b.Forest) (hP : P b) :
    ∃ m made, b.round range = .ok (m, made) ∧ m.Forest ∧ m.size = b.size ∧ P m := by
  rw [round_eq_trials]
  exact hb.exists_foldlM_tryOut stable hP 0 b.on_of_mem_trials

/-- What a round on a forest leads to. -/
theorem Forest.of_round (hb : b.Forest) (hP : P b) {made : Nat}
    (run : b.round range = .ok (m, made)) : m.Forest ∧ m.size = b.size ∧ P m := by
  rw [round_eq_trials] at run
  exact hb.of_foldlM_tryOut stable hP b.on_of_mem_trials run

/-- **Fitting blocks of a forest never faults**, keeps all links, and what is stable. -/
theorem Forest.exists_foldlM_fit (hb : b.Forest) (hP : P b) {nests : List BlockId}
    (within : ∀ nest ∈ nests, nest < b.size) :
    ∃ f, nests.foldlM fit b = .ok f ∧ b.SameRoles f ∧ P f :=
  exists_foldlM_eq_ok ⟨.refl b, hP⟩ fun s nest mem ⟨same, hP⟩ => by
    have hs := hb.congr same.sameLinks
    obtain ⟨block, extent, found, measured, fitted⟩ :=
      hs.exists_fit (same.sameLinks.size_eq ▸ within nest mem)
    exact ⟨_, fitted, same.trans (sameRoles_refit s nest block extent),
      stable.refit hs hP found measured⟩

/-- In the middle of the fitting of a forest nothing has faulted, all links have been kept,
and what is stable. -/
theorem Forest.exists_foldlM_fit_prefix (hb : b.Forest) (hP : P b) {done rest : List BlockId}
    (ordered : b.fittingOrder = .ok (done ++ rest)) :
    ∃ f, done.foldlM fit b = .ok f ∧ b.SameRoles f ∧ P f := by
  have perm := hb.fittingOrder_perm ordered
  exact hb.exists_foldlM_fit stable hP fun nest mem =>
    lt_of_mem_nests (perm.mem_iff.mp (List.mem_append_left _ mem))

/-- **Fitting all nests of a forest never faults**, keeps all links, and what is
stable. -/
theorem Forest.exists_fitAll (hb : b.Forest) (hP : P b) :
    ∃ f, b.fitAll = .ok (f, b.nests.length) ∧ b.SameRoles f ∧ P f := by
  obtain ⟨order, ordered, perm⟩ := hb.exists_fittingOrder
  have within : ∀ nest ∈ order, nest < b.size := fun _ mem =>
    lt_of_mem_nests (perm.mem_iff.mp mem)
  obtain ⟨f, run, kept⟩ := hb.exists_foldlM_fit stable hP within
  refine ⟨f, ?_, kept⟩
  rw [fitAll, ordered]
  dsimp only [bind, Except.bind]
  rw [run, ← perm.length_eq]
  rfl

/-- What fitting all nests of a forest leads to. -/
theorem Forest.of_fitAll (hb : b.Forest) (hP : P b) {f : Board} {fitted : Nat}
    (run : b.fitAll = .ok (f, fitted)) : f.Forest ∧ P f ∧ fitted = b.nests.length := by
  obtain ⟨f', run', same, kept⟩ := hb.exists_fitAll stable hP
  obtain ⟨rfl, counted⟩ := ok_unique run run'
  exact ⟨hb.congr same.sameLinks, kept, counted⟩

/-- Further rounds on a forest never fault, and keep what is stable. -/
theorem Forest.exists_moreRounds (hb : b.Forest) (hP : P b) (limit links fitted : Nat) :
    ∃ s total last, moreRounds range limit b links fitted = .ok (s, total, last) ∧
      s.Forest ∧ P s := by
  induction limit generalizing b links fitted with
  | zero => exact ⟨b, links, fitted, rfl, hb, hP⟩
  | succ limit ih =>
    obtain ⟨m, made, matched, hm, -, hPm⟩ := hb.exists_round stable hP
    rw [moreRounds, matched]
    dsimp only [bind, Except.bind]
    split
    · exact ⟨m, links, fitted, rfl, hm, hPm⟩
    · obtain ⟨f, fit, same, hPf⟩ := hm.exists_fitAll stable hPm
      rw [fit]
      exact ih (hm.congr same.sameLinks) hPf (links + made) m.nests.length

/-- **Settling never faults**, whatever the board: it leads to a forest, and to what
is stable and true of the board without links. -/
theorem exists_settle (b : Board) (hP : P b.unlink) :
    ∃ s report, b.settle range = .ok (s, report) ∧ s.Forest ∧ P s := by
  obtain ⟨m, made, matched, hm, -, hPm⟩ := b.unlinked_unlink.forest.exists_round stable hP
  obtain ⟨f, fit, same, hPf⟩ := hm.exists_fitAll stable hPm
  have hf := hm.congr same.sameLinks
  rw [settle, matched]
  dsimp only [bind, Except.bind]
  rw [fit]
  dsimp only
  split
  · exact ⟨f, _, rfl, hf, hPf⟩
  · obtain ⟨s, total, last, more, hs, hPs⟩ :=
      hf.exists_moreRounds stable hPf b.size made m.nests.length
    rw [more]
    exact ⟨s, _, rfl, hs, hPs⟩

/-- What settling leads to. -/
theorem of_settle {report : Report} (hP : P b.unlink) (settled : b.settle range = .ok (s, report)) :
    s.Forest ∧ P s := by
  obtain ⟨s', report', settled', kept⟩ := exists_settle stable b hP
  obtain ⟨rfl, -⟩ := ok_unique settled settled'
  exact kept

/-- What further rounds on a forest lead to. -/
theorem Forest.of_moreRounds (hb : b.Forest) (hP : P b) {limit links fitted total last : Nat}
    (run : moreRounds range limit b links fitted = .ok (s, total, last)) : s.Forest ∧ P s := by
  obtain ⟨s', total', last', run', kept⟩ := hb.exists_moreRounds stable hP limit links fitted
  obtain ⟨rfl, -⟩ := ok_unique run run'
  exact kept

end Run

/-! ## The boards on the way -/

/-- **A board on which a round of settling starts.** The rounds go on here without end;
settling stops at the first that makes no link. -/
inductive RoundStart (range : Float32) (b : Board) : Board → Prop
  /-- The first round starts on the board without links. -/
  | first : RoundStart range b b.unlink
  /-- Every other round starts on the board fitted after the round before. -/
  | next {s m f : Board} {made fitted : Nat} : RoundStart range b s →
      s.round range = .ok (m, made) → m.fitAll = .ok (f, fitted) → RoundStart range b f

/-- **A board that settling passes through.** -/
inductive Passes (range : Float32) (b : Board) : Board → Prop
  /-- The first trials of a round have been made. -/
  | tried {s m : Board} {done rest : List Trial} {made : Nat} : RoundStart range b s →
      s.trials = done ++ rest → done.foldlM (tryOut range) (s, 0) = .ok (m, made) →
      Passes range b m
  /-- In the next trial the guest has been accepted and snapped, and is not linked yet. -/
  | snapped {s m : Board} {done rest : List Trial} {trial : Trial} {made : Nat} {spot : Point} :
      RoundStart range b s → s.trials = done ++ trial :: rest →
      done.foldlM (tryOut range) (s, 0) = .ok (m, made) →
      m.verdict range trial.host trial.guest trial.slot = .ok (.accept spot) →
      Passes range b (m.snap trial.guest spot)
  /-- After a round, the first nests have been fitted. -/
  | fitted {s m f : Board} {done rest : List BlockId} {made : Nat} : RoundStart range b s →
      s.round range = .ok (m, made) → m.fittingOrder = .ok (done ++ rest) →
      done.foldlM fit m = .ok f → Passes range b f
  /-- The bar of the next nest has got its length, and what follows has not moved yet. -/
  | resized {s m f : Board} {done rest : List BlockId} {nest : BlockId} {made : Nat}
      {extent : Float32} : RoundStart range b s → s.round range = .ok (m, made) →
      m.fittingOrder = .ok (done ++ nest :: rest) → done.foldlM fit m = .ok f →
      f.fittingExtent nest = .ok extent → Passes range b (f.modify nest (·.resize extent))

/-- **Every round of a settling starts on a forest**, on which what is stable is true if it
is so on the board without links. -/
theorem RoundStart.keeps {P : Board → Prop} (h : RoundStart range b s) (stable : Stable range P)
    (hP : P b.unlink) : s.Forest ∧ P s := by
  induction h with
  | first => exact ⟨b.unlinked_unlink.forest, hP⟩
  | next _ matched fit ih =>
    obtain ⟨hs, hP⟩ := ih
    obtain ⟨hm, -, hP⟩ := hs.of_round stable hP matched
    obtain ⟨hf, hP, -⟩ := hm.of_fitAll stable hP fit
    exact ⟨hf, hP⟩

theorem RoundStart.forest (h : RoundStart range b s) : s.Forest :=
  (h.keeps (stable_true range) trivial).1

/-- In the middle of a round the board is a forest. -/
theorem RoundStart.forest_of_tried (h : RoundStart range b s) {done rest : List Trial} {made : Nat}
    (split : s.trials = done ++ rest) (run : done.foldlM (tryOut range) (s, 0) = .ok (m, made)) :
    m.Forest :=
  (h.forest.of_foldlM_tryOut (stable_true range) trivial
    (fun _ mem => mem_trials.mp (split ▸ List.mem_append_left rest mem)) run).1

/-- In the middle of the fitting the board is a forest. -/
theorem RoundStart.forest_of_fitted {f : Board} (h : RoundStart range b s) {made : Nat}
    (matched : s.round range = .ok (m, made)) {done : List BlockId}
    (run : done.foldlM fit m = .ok f) : f.Forest := by
  obtain ⟨hm, -⟩ := h.forest.of_round (stable_true range) trivial matched
  exact hm.congr (sameRoles_of_foldlM_fit run).sameLinks

/-- **All the way through a settling the board is a forest.** -/
theorem Passes.forest (h : Passes range b m) : m.Forest := by
  cases h with
  | tried start split run => exact start.forest_of_tried split run
  | snapped start split run =>
    exact (start.forest_of_tried split run).congr (sameRoles_snap _ _ _).sameLinks
  | fitted start matched _ run => exact start.forest_of_fitted matched run
  | resized start matched _ run =>
    exact (start.forest_of_fitted matched run).congr
      (sameRoles_modify _ _ fun block => block.role_resize _).sameLinks

/-- Further rounds end on a board that settling passes through. -/
theorem RoundStart.passes_moreRounds (h : RoundStart range b m)
    {limit links fitted total last : Nat}
    (run : moreRounds range limit m links fitted = .ok (s, total, last)) : Passes range b s := by
  induction limit generalizing m links fitted with
  | zero =>
    cases run
    exact .tried h (List.nil_append _).symm rfl
  | succ limit ih =>
    obtain ⟨c, made, matched, ⟨-, rfl, -⟩ | ⟨-, f, count, fit, run⟩⟩ := moreRounds_cases run
    · rw [round_eq_trials] at matched
      exact .tried h (List.append_nil _).symm matched
    · exact ih (h.next matched fit) run

/-- **A settling ends on a board that it passes through.** -/
theorem passes_settle {report : Report} (h : b.settle range = .ok (s, report)) :
    Passes range b s := by
  obtain ⟨m, made, f, fitted, total, last, matched, fit, -, ⟨-, rfl, -⟩ | ⟨-, more⟩⟩ :=
    settle_eq_ok_iff.mp h
  · exact .tried (.next .first matched fit) (List.nil_append _).symm rfl
  · exact RoundStart.passes_moreRounds (.next .first matched fit) more

end Board

end SnapBlocks
