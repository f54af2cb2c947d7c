import SnapBlocks.Proofs.Distance
import SnapBlocks.Proofs.Rounds

/-!
# How near a block lies when it is linked

A guest is refused if its distance from the slot is the range or more. That is meant to
let in what is closer than the range, and nothing else. But what is not a number is
neither closer than the range nor as far away. So a guest without a distance from the slot
is never too far away, and where the range is not a number no guest is.

`Board.Draws` says of a settling that it makes a link, and tells the board on which it does
so. Each link of the settled board is made at such a moment (`Board.DrawnWithin`), and each
link that is made is there in the end. At that moment the guest is not at the range or
beyond it, and it is closer exactly if there are a range and a distance to compare.
-/

namespace SnapBlocks.Board

open Float32 (nan)

variable {b c m s : Board} {range : Float32} {report : Report} {ts : List Trial} {trial : Trial}
  {host guest : BlockId} {slot : Slot} {spot : Point} {made before n : Nat}

/-! ## The moment at which a link is made -/

/-- **The guest of a trial is accepted at a spot** when it has its turn among other trials:
the ones before it lead to the board `m`, and there is the verdict. -/
def Accepts (range : Float32) (ts : List Trial) (start : Board × Nat) (trial : Trial) (m : Board)
    (spot : Point) : Prop :=
  ∃ done rest made, ts = done ++ trial :: rest ∧ done.foldlM (tryOut range) start = .ok (m, made) ∧
    m.verdict range trial.host trial.guest trial.slot = .ok (.accept spot)

/-- What is accepted among some trials is accepted if another one comes before them. -/
theorem Accepts.cons {start next : Board × Nat} {first : Trial}
    (tried : tryOut range start first = .ok next) (h : Accepts range ts next trial m spot) :
    Accepts range (first :: ts) start trial m spot := by
  obtain ⟨done, rest, made, rfl, reached, accepted⟩ := h
  refine ⟨first :: done, rest, made, rfl, ?_, accepted⟩
  rw [List.foldlM_cons, tried]
  exact reached

/-- **A link that is there after some trials was there before them or made by one.** -/
theorem accepts_of_foldlM_tryOut (on : ∀ trial ∈ ts, trial.On c)
    (run : ts.foldlM (tryOut range) (c, before) = .ok (m, made))
    (held : m.held? host slot = some guest) :
    c.held? host slot = some guest ∨
      ∃ d spot, Accepts range ts (c, before) ⟨host, guest, slot⟩ d spot := by
  induction ts generalizing c before with
  | nil =>
    cases run
    exact .inl held
  | cons trial ts ih =>
    obtain ⟨trial_on, rest_on⟩ := List.forall_mem_cons.mp on
    rcases tryOut_cases range trial_on before with ⟨spot, fits, tried⟩ | ⟨-, tried⟩
    · rw [List.foldlM_cons, tried] at run
      rcases ih (fun other mem => on_attach_iff.mpr (rest_on other mem)) run with
        there | ⟨d, spot', accepts⟩
      · -- the link is either the one that this trial makes, or older
        rw [fits.held?_attach] at there
        split_ifs at there with this_one
        · obtain ⟨rfl, rfl⟩ := this_one
          obtain rfl := Option.some.inj there
          exact .inr ⟨c, spot, [], ts, before, rfl, rfl, verdict_eq_accept_iff.mpr fits⟩
        · exact .inl there
      · exact .inr ⟨d, spot', accepts.cons tried⟩
    · rw [List.foldlM_cons, tried] at run
      exact (ih rest_on run).imp_right fun ⟨d, spot', accepts⟩ => ⟨d, spot', accepts.cons tried⟩

/-- **The settling draws a guest onto a slot**: the guest is accepted in one of its rounds,
on the board as it is when the trial has its turn there. -/
def Draws (b : Board) (range : Float32) (trial : Trial) (m : Board) (spot : Point) : Prop :=
  ∃ n c, RoundAt range b n c ∧ Accepts range c.trials (c, 0) trial m spot

/-- Every link of the board is one that the settling of another makes. -/
def DrawnWithin (b : Board) (range : Float32) (c : Board) : Prop :=
  ∀ host slot guest, c.held? host slot = some guest →
    ∃ m spot, b.Draws range ⟨host, guest, slot⟩ m spot

/-- A round adds only links that the settling makes. -/
theorem RoundAt.drawnWithin_round (h : RoundAt range b n c) (drawn : b.DrawnWithin range c)
    (matched : c.round range = .ok (m, made)) : b.DrawnWithin range m := by
  intro host slot guest held
  rw [round_eq_trials] at matched
  rcases accepts_of_foldlM_tryOut c.on_of_mem_trials matched held with there | ⟨d, spot, accepts⟩
  · exact drawn host slot guest there
  · exact ⟨d, spot, _, c, h, accepts⟩

/-- Fitting adds no link. -/
theorem DrawnWithin.fitAll {f : Board} {fitted : Nat} (drawn : b.DrawnWithin range m)
    (fit : m.fitAll = .ok (f, fitted)) : b.DrawnWithin range f := by
  intro host slot guest held
  rw [← (sameRoles_of_fitAll fit).sameLinks.held?] at held
  exact drawn host slot guest held

/-- **On the boards on which rounds start there are only links that the settling makes.** -/
theorem RoundAt.drawnWithin (h : RoundAt range b n c) : b.DrawnWithin range c := by
  induction h with
  | first =>
    intro host slot guest held
    rw [b.unlinked_unlink.held?] at held
    cases held
  | next at_round matched _ fit ih => exact (at_round.drawnWithin_round ih matched).fitAll fit

/-- **The settled board has only links that the settling makes.** -/
theorem SettlesFreely.drawnWithin (settles : b.SettlesFreely range s report) :
    b.DrawnWithin range s := by
  obtain ⟨m, made, f, fitted, total, last, matched, fit, -, ended⟩ := settles
  have start : RoundAt range b 0 b.unlink := .first
  obtain ⟨-, rfl, -⟩ | ⟨some_made, ends⟩ := ended
  · exact (start.drawnWithin_round start.drawnWithin matched).fitAll fit
  · obtain ⟨k, d, -, at_round, none_made⟩ := (start.next matched some_made fit).exists_last ends
    exact at_round.drawnWithin_round at_round.drawnWithin none_made

/-- A link that the settling makes is there on the settled board. -/
theorem Draws.held (draws : b.Draws range trial m spot)
    (settles : b.SettlesFreely range s report) :
    s.held? trial.host trial.slot = some trial.guest := by
  obtain ⟨n, c, at_round, done, rest, made, split, reached, accepted⟩ := draws
  have hc := at_round.roundStart.forest
  obtain ⟨d, _, matched, -⟩ := hc.exists_round (stable_true range) trivial
  have makes : c.MakesLink range trial := ⟨done, rest, m, made, spot, split, reached, accepted⟩
  exact at_round.grows settles matched _ _ _ (hc.held_of_makesLink makes matched)

/-! ## The main statement -/

/-- **A block is linked only where it is not at the range or beyond it, and closer than the
range exactly if both are numbers.** Whatever the board and the range, the links of the
settled board are those that the settling makes at some moment. At that moment the guest
starts somewhere and the slot lies somewhere, and the range is not less than the distance
of the two points or equal to it. The distance is less than the range if the range is a
number and in neither coordinate one of the points is lost or both are at the same
infinity, and not otherwise. -/
theorem settle_draws_near (b : Board) (range : Float32) :
    ∃ s report, b.settle range = .ok (s, report) ∧
      (∀ trial : Trial, s.held? trial.host trial.slot = some trial.guest ↔
        ∃ m spot, b.Draws range trial m spot) ∧
      ∀ trial m spot, b.Draws range trial m spot → ∃ start,
        m.spot? trial.host trial.slot = some spot ∧ m.start? trial.guest = some start ∧
          ¬ range ≤ spot.distance start ∧
            (spot.distance start < range ↔ range ≠ nan ∧ spot.HaveDistance start) := by
  obtain ⟨s, report, settled, -⟩ := exists_settle (stable_true range) b trivial
  have settles := settle_eq_ok_iff_settlesFreely.mp settled
  refine ⟨s, report, settled, fun trial => ⟨?_, ?_⟩, fun trial m spot draws => ?_⟩
  · exact settles.drawnWithin trial.host trial.slot trial.guest
  · rintro ⟨m, spot, draws⟩
    exact draws.held settles
  · obtain ⟨n, c, -, done, rest, made, -, -, accepted⟩ := draws
    have fits := verdict_eq_accept_iff.mp accepted
    obtain ⟨block, found, -, near⟩ := fits.guest_fits
    refine ⟨block.start, fits.spot?_eq, ?_, near, Point.distance_lt_iff near⟩
    rw [start?, found]
    rfl

/-- The greatest finite coordinate. -/
def utmost : Float32 := .ofBits 0x7f7fffff

/-- Two calls far below each other, each of them moved to the right until its coordinate is
infinite. -/
def outOfSight : Board :=
  ((((empty.push ((Block.place .call ⟨utmost, 0⟩).recode "")).push
    ((Block.place .call ⟨utmost, 5000⟩).recode "")).carry 0 ⟨utmost, 0⟩).carry 1 ⟨utmost, 0⟩)

theorem reachable_outOfSight : outOfSight.Reachable :=
  .carry 1 ⟨utmost, 0⟩ (.carry 0 ⟨utmost, 0⟩ (.push .call ⟨utmost, 5000⟩ ""
    (.push .call ⟨utmost, 0⟩ "" .empty)))

/-- **A block may be linked from however far below.** Where both calls are infinitely far to
the right they have no distance, and the lower one is drawn onto the upper one. -/
theorem not_forall_draws_closer : ¬ ∀ (b m : Board) (range : Float32) (trial : Trial)
    (spot start : Point), Reachable b → b.Draws range trial m spot →
      m.start? trial.guest = some start → spot.distance start < range := by
  intro always
  -- the trials before it are those of the first call on itself
  let first := outOfSight.unlink
  have reads : ((first.trials.take 3).foldlM (tryOut standardRange) (first, 0)).toOption.any
      (fun reached => (reached.1.spot? 0 .next).any fun spot =>
        (reached.1.start? 1).any fun start =>
          decide ((reached.1.verdict standardRange 0 1 .next).toOption = some (.accept spot)) &&
            !decide (spot.distance start < standardRange)) = true := by
    decide +kernel
  have split : first.trials = first.trials.take 3 ++ ⟨0, 1, .next⟩ :: first.trials.drop 4 := by
    decide +kernel
  obtain ⟨⟨m, made⟩, reached, reads⟩ := exists_ok_of_any reads
  obtain ⟨spot, -, reads⟩ := (Option.any_eq_true ..).mp reads
  obtain ⟨start, at_start, reads⟩ := (Option.any_eq_true ..).mp reads
  obtain ⟨accepted, far⟩ := (Bool.and_eq_true ..).mp reads
  have draws : outOfSight.Draws standardRange ⟨0, 1, .next⟩ m spot :=
    ⟨0, first, .first, _, _, made, split, reached, eq_ok_of_toOption (of_decide_eq_true accepted)⟩
  have near := always _ m _ _ spot start reachable_outOfSight draws at_start
  rw [decide_eq_true near] at far
  cases far

end SnapBlocks.Board
