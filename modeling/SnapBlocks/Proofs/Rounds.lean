import SnapBlocks.Proofs.Programs
import SnapBlocks.Proofs.Resettling

/-!
# The rounds of a settling

The number of rounds is limited, although a round that makes no link ends them anyhow.
The limit is a precaution and nothing else: no round takes a link back, each one but the
last makes some, and every link takes a block off the heads, of which one is always left.
So there are fewer rounds after the first one than there are blocks.

To say so, the rounds are described a second time without the limit. `Board.RoundAt` lists
the boards on which they start, `Board.RoundsEnd` says where they lead, and
`Board.SettlesFreely` what a settling comes to that goes on for as long as it takes. The
last is no different from settling (`settle_eq_ok_iff_settlesFreely`).
-/

namespace SnapBlocks.Board

variable {b c d f m s : Board} {range : Float32} {report : Report} {trial : Trial}
  {made n links fitted total last limit : Nat}

/-! ## Settling without a limit -/

/-- **Where further rounds lead** if their number is not limited: they go on until one of
them makes no link, and never stop otherwise. -/
inductive RoundsEnd (range : Float32) : Board → Nat → Nat → Board → Nat → Nat → Prop
  /-- The round makes no link. -/
  | last {b m : Board} {links fitted : Nat} : b.round range = .ok (m, 0) →
      RoundsEnd range b links fitted m links fitted
  /-- The round makes links, the nests are fitted, and another round follows. -/
  | more {b m f s : Board} {made count links fitted total last : Nat} :
      b.round range = .ok (m, made) → made ≠ 0 → m.fitAll = .ok (f, count) →
      RoundsEnd range f (links + made) count s total last →
      RoundsEnd range b links fitted s total last

/-- **What the board settles to if the number of rounds is not limited**, and the report
on it. As in `Board.settle`, no further round follows a first one that makes no link. -/
def SettlesFreely (b : Board) (range : Float32) (s : Board) (report : Report) : Prop :=
  ∃ m made f fitted total last, b.unlink.round range = .ok (m, made) ∧
    m.fitAll = .ok (f, fitted) ∧ report = ⟨total, s.heads.length, last⟩ ∧
      (made = 0 ∧ s = f ∧ total = 0 ∧ last = fitted ∨
        made ≠ 0 ∧ RoundsEnd range f made fitted s total last)

/-- **A limit that is greater than the number of heads changes nothing**: each round that
is not the last takes a block off the heads. -/
theorem moreRounds_eq_ok_iff (enough : b.heads.length < limit) :
    moreRounds range limit b links fitted = .ok (s, total, last) ↔
      RoundsEnd range b links fitted s total last := by
  induction limit generalizing b links fitted with
  | zero => omega
  | succ limit ih =>
    have fewer : ∀ {m f : Board} {made count : Nat}, b.round range = .ok (m, made) → made ≠ 0 →
        m.fitAll = .ok (f, count) → f.heads.length < limit := by
      intro m f made count matched some_made fit
      rw [← (sameRoles_of_fitAll fit).sameLinks.heads_eq]
      have := length_heads_of_round matched
      omega
    constructor
    · intro run
      obtain ⟨m, made, matched, ⟨rfl, rfl, rfl, rfl⟩ | ⟨some_made, f, count, fit, run⟩⟩ :=
        moreRounds_cases run
      · exact .last matched
      · exact .more matched some_made fit ((ih (fewer matched some_made fit)).mp run)
    · intro ends
      cases ends with
      | last matched =>
        rw [moreRounds, matched]
        rfl
      | more matched some_made fit ends =>
        rw [moreRounds, matched]
        dsimp only [bind, Except.bind]
        rw [if_neg some_made, fit]
        exact (ih (fewer matched some_made fit)).mpr ends

/-- **Settling is settling without a limit.** -/
theorem settle_eq_ok_iff_settlesFreely :
    b.settle range = .ok (s, report) ↔ b.SettlesFreely range s report := by
  have enough : ∀ {m f : Board} {made fitted : Nat}, b.unlink.round range = .ok (m, made) →
      made ≠ 0 → m.fitAll = .ok (f, fitted) → f.heads.length < b.size := by
    intro m f made fitted matched some_made fit
    have heads := length_heads_of_round matched
    rw [b.unlinked_unlink.length_heads, size_unlink] at heads
    rw [← (sameRoles_of_fitAll fit).sameLinks.heads_eq]
    omega
  rw [settle_eq_ok_iff, SettlesFreely]
  constructor
  · rintro ⟨m, made, f, fitted, total, last, matched, fit, reported, ended⟩
    refine ⟨m, made, f, fitted, total, last, matched, fit, reported, ended.imp_right ?_⟩
    exact fun ⟨some_made, more⟩ =>
      ⟨some_made, (moreRounds_eq_ok_iff (enough matched some_made fit)).mp more⟩
  · rintro ⟨m, made, f, fitted, total, last, matched, fit, reported, ended⟩
    refine ⟨m, made, f, fitted, total, last, matched, fit, reported, ended.imp_right ?_⟩
    exact fun ⟨some_made, ends⟩ =>
      ⟨some_made, (moreRounds_eq_ok_iff (enough matched some_made fit)).mpr ends⟩

/-! ## The boards on which rounds start -/

/-- **The board on which a round of a settling starts.** The first round is that of number
zero and starts on the board without links. Each round that makes a link is followed by
another, on the fitted board. -/
inductive RoundAt (range : Float32) (b : Board) : Nat → Board → Prop
  /-- The first round. -/
  | first : RoundAt range b 0 b.unlink
  /-- A round that follows one that made a link. -/
  | next {n : Nat} {c m f : Board} {made fitted : Nat} : RoundAt range b n c →
      c.round range = .ok (m, made) → made ≠ 0 → m.fitAll = .ok (f, fitted) →
      RoundAt range b (n + 1) f

namespace RoundAt

theorem roundStart (h : RoundAt range b n c) : RoundStart range b c := by
  induction h with
  | first => exact .first
  | next _ matched _ fit ih => exact .next ih matched fit

theorem size_eq (h : RoundAt range b n c) : c.size = b.size := by
  induction h with
  | first => exact b.size_unlink
  | next at_round matched _ fit ih =>
    obtain ⟨-, same, -⟩ := at_round.roundStart.forest.of_round (stable_true range) trivial matched
    exact (sameRoles_of_fitAll fit).sameLinks.size_eq.symm.trans (same.trans ih)

/-- Every round before this one has taken a block off the heads. -/
theorem length_heads_add_le (h : RoundAt range b n c) : c.heads.length + n ≤ b.size := by
  induction h with
  | first =>
    rw [b.unlinked_unlink.length_heads, size_unlink]
    exact le_rfl
  | next _ matched some_made fit ih =>
    rw [← (sameRoles_of_fitAll fit).sameLinks.heads_eq]
    have := length_heads_of_round matched
    omega

/-- **There are fewer rounds after the first one than there are blocks**: one head is
always left. -/
theorem lt_size (h : RoundAt range b n c) (not_first : n ≠ 0) : n < b.size := by
  have count := h.length_heads_add_le
  have on_board : 0 < c.size := by
    rw [h.size_eq]
    omega
  obtain ⟨head, mem, -⟩ := h.roundStart.forest.exists_head on_board
  have := List.length_pos_of_mem mem
  omega

/-- A settling ends where the rounds after any of its rounds lead. -/
theorem roundsEnd (h : RoundAt range b n c) (settles : b.SettlesFreely range s report) :
    n = 0 ∧ c = b.unlink ∨
      ∃ links fitted total last, RoundsEnd range c links fitted s total last := by
  induction h with
  | first => exact .inl ⟨rfl, rfl⟩
  | @next n c m f made fitted _ matched some_made fit ih =>
    refine .inr ?_
    obtain ⟨-, rfl⟩ | ⟨links, fitted', total, last, ends⟩ := ih
    · obtain ⟨m', made', f', fitted', total, last, matched', fit', -, ended⟩ := settles
      obtain ⟨rfl, rfl⟩ := ok_unique matched matched'
      obtain ⟨rfl, rfl⟩ := ok_unique fit fit'
      obtain ⟨none_made, -⟩ | ⟨-, ends⟩ := ended
      · exact absurd none_made some_made
      · exact ⟨_, _, _, _, ends⟩
    · cases ends with
      | last matched' => exact absurd (ok_unique matched matched').2 some_made
      | more matched' _ fit' ends =>
        obtain ⟨rfl, rfl⟩ := ok_unique matched matched'
        obtain ⟨rfl, rfl⟩ := ok_unique fit fit'
        exact ⟨_, _, _, _, ends⟩

/-- **The rounds end with one that makes no link.** -/
theorem exists_last (h : RoundAt range b n c) (ends : RoundsEnd range c links fitted s total last) :
    ∃ k d, n ≤ k ∧ RoundAt range b k d ∧ d.round range = .ok (s, 0) := by
  induction ends generalizing n with
  | last matched => exact ⟨n, _, le_rfl, h, matched⟩
  | more matched some_made fit _ ih =>
    obtain ⟨k, d, le, at_round, ended⟩ := ih (h.next matched some_made fit)
    exact ⟨k, d, Nat.le_of_succ_le le, at_round, ended⟩

end RoundAt

/-! ## Links stay -/

/-- Further rounds take no link back. -/
theorem RoundsEnd.grows (ends : RoundsEnd range b links fitted s total last) (hb : b.Forest) :
    b.Grows s := by
  induction ends with
  | last matched =>
    obtain ⟨-, rfl⟩ := round_eq_zero_iff.mp matched
    exact .refl _
  | @more b m f s made count links fitted total last matched _ fit _ ih =>
    obtain ⟨hm, -, grows⟩ := hb.of_round (stable_grows b range) (.refl b) matched
    obtain ⟨hf, grows, -⟩ := hm.of_fitAll (stable_grows b range) grows fit
    exact grows.trans (ih hf)

/-- What a round has led to grows into the settled board. -/
theorem RoundAt.grows (h : RoundAt range b n c) (settles : b.SettlesFreely range s report)
    (matched : c.round range = .ok (m, made)) : m.Grows s := by
  obtain ⟨-, rfl⟩ | ⟨links, fitted, total, last, ends⟩ := h.roundsEnd settles
  · obtain ⟨m', made', f, fitted, matched', -, grows, -⟩ :=
      first_round_of_settle (settle_eq_ok_iff_settlesFreely.mpr settles)
    obtain ⟨rfl, -⟩ := ok_unique matched matched'
    exact grows
  · obtain ⟨hm, -⟩ := h.roundStart.forest.of_round (stable_true range) trivial matched
    cases ends with
    | last matched' =>
      obtain ⟨rfl, -⟩ := ok_unique matched matched'
      exact .refl _
    | more matched' _ fit ends =>
      obtain ⟨rfl, -⟩ := ok_unique matched matched'
      obtain ⟨hf, grows, -⟩ := hm.of_fitAll (stable_grows m range) (.refl m) fit
      exact grows.trans (ends.grows hf)

/-- **A round that starts on the board makes the link of the trial**: when the trial has
its turn, the guest is accepted. -/
def MakesLink (c : Board) (range : Float32) (trial : Trial) : Prop :=
  ∃ done rest m made spot, c.trials = done ++ trial :: rest ∧
    done.foldlM (tryOut range) (c, 0) = .ok (m, made) ∧
      m.verdict range trial.host trial.guest trial.slot = .ok (.accept spot)

/-- A link that is made in a round is there after it. -/
theorem Forest.held_of_makesLink (hc : c.Forest) (makes : c.MakesLink range trial)
    (matched : c.round range = .ok (d, n)) : d.held? trial.host trial.slot = some trial.guest := by
  obtain ⟨done, rest, m, made, spot, split, run, accepted⟩ := makes
  have on : ∀ other ∈ done ++ trial :: rest, other.On c := split ▸ c.on_of_mem_trials
  obtain ⟨hm, same, -⟩ := hc.of_foldlM_tryOut (stable_true range) trivial
    (fun other mem => on other (List.mem_append_left _ mem)) run
  have on_rest : ∀ other ∈ trial :: rest, other.On m := fun other mem => by
    rw [Trial.On, same]
    exact on other (List.mem_append_right _ mem)
  rw [round_eq_trials, split, List.foldlM_append, run] at matched
  obtain ⟨trial_on, rest_on⟩ := List.forall_mem_cons.mp on_rest
  obtain ⟨spot', fits, after⟩ | ⟨never, -⟩ := foldlM_tryOut_cons trial_on matched
  · exact fits.held_of_foldlM_tryOut hm rest_on after
  · exact absurd (verdict_eq_accept_iff.mp accepted) (never spot)

/-! ## The main statement -/

/-- **The rounds of a settling add links and nothing else, and their number needs no
limit.** A board that can come up settles as it does without the limit, with the same
report. A link that is made in any round is there on the settled board. There are fewer
rounds after the first one than there are blocks; if the first one makes a link, the last
one makes none, and the limit is not reached by then. -/
theorem Reachable.settle_unlimited (h : Reachable b) (range : Float32) :
    ∃ s report, b.settle range = .ok (s, report) ∧ Reachable s ∧
      (∀ s' report', b.SettlesFreely range s' report' ↔ s' = s ∧ report' = report) ∧
      (∀ n c trial, RoundAt range b n c → c.MakesLink range trial →
        s.held? trial.host trial.slot = some trial.guest ∧
          s.back? trial.guest = some trial.host) ∧
      (∀ n c, RoundAt range b n c → n ≠ 0 → n < b.size) ∧
      ∀ m made, b.unlink.round range = .ok (m, made) → made ≠ 0 →
        ∃ n c, n ≠ 0 ∧ n < b.size ∧ RoundAt range b n c ∧ c.round range = .ok (s, 0) := by
  obtain ⟨s, report, settled, hs, -⟩ := exists_settle (stable_true range) b trivial
  have settles := settle_eq_ok_iff_settlesFreely.mp settled
  refine ⟨s, report, settled, .settle h settled, fun s' report' => ?_, ?_, fun n c at_round =>
    at_round.lt_size, ?_⟩
  · rw [← settle_eq_ok_iff_settlesFreely]
    constructor
    · exact fun settled' => ok_unique settled' settled
    · rintro ⟨rfl, rfl⟩
      exact settled
  · intro n c trial at_round makes
    have hc := at_round.roundStart.forest
    obtain ⟨m, made, matched, -⟩ := hc.exists_round (stable_true range) trivial
    have held := at_round.grows settles matched _ _ _ (hc.held_of_makesLink makes matched)
    exact ⟨held, hs.back_of_held held⟩
  · intro m made matched some_made
    obtain ⟨m', made', f, fitted, total, last, matched', fit, -, ended⟩ := settles
    obtain ⟨rfl, rfl⟩ := ok_unique matched matched'
    obtain ⟨none_made, -⟩ | ⟨-, ends⟩ := ended
    · exact absurd none_made some_made
    have second : RoundAt range b 1 f := RoundAt.first.next matched some_made fit
    obtain ⟨n, c, le, at_round, none_made⟩ := second.exists_last ends
    have not_first : n ≠ 0 := by omega
    exact ⟨n, c, not_first, at_round.lt_size not_first, at_round, none_made⟩

/-- A conditional with a call at its body, and a call where the foot of the conditional is
going to be once the bar has grown. -/
def lateFoot : Board :=
  ((empty.push ((Block.place (.nest .conditional) .origin).recode "if")).push
    ((Block.place .call ⟨15, 50⟩).recode "go")).push ((Block.place .call ⟨0, 165⟩).recode "on")

theorem reachable_lateFoot : lateFoot.Reachable :=
  .push .call ⟨0, 165⟩ "on" (.push .call ⟨15, 50⟩ "go" (.push (.nest .conditional) .origin "if"
    .empty))

/-- The second call is attached in the second round. Both links are there in the end, and
a third round makes no other. -/
theorem settle_unlimited_lateFoot : ∃ s report, lateFoot.settle standardRange = .ok (s, report) ∧
    lateFoot.SettlesFreely standardRange s report ∧
    (∃ c, RoundAt standardRange lateFoot 1 c ∧ c.held? 0 .body = some 1 ∧
      c.held? 0 .next = none) ∧
    s.held? 0 .body = some 1 ∧ s.held? 0 .next = some 2 ∧
    ∃ n c, n ≠ 0 ∧ n < 3 ∧ RoundAt standardRange lateFoot n c ∧
      c.round standardRange = .ok (s, 0) := by
  obtain ⟨s, report, settled, -, free, -, -, ends⟩ :=
    Reachable.settle_unlimited reachable_lateFoot standardRange
  have all : (lateFoot.settle standardRange).toOption.any (fun settled =>
      decide (settled.1.held? 0 .body = some 1 ∧ settled.1.held? 0 .next = some 2)) = true := by
    decide +kernel
  rw [settled] at all
  obtain ⟨body, next⟩ := of_decide_eq_true all
  have first : (lateFoot.unlink.round standardRange).toOption.any (fun matched =>
      decide (matched.2 ≠ 0) && matched.1.fitAll.toOption.any fun fit =>
        decide (fit.1.held? 0 .body = some 1 ∧ fit.1.held? 0 .next = none)) = true := by
    decide +kernel
  obtain ⟨⟨m, made⟩, matched, facts⟩ := exists_ok_of_any first
  obtain ⟨some_made, facts⟩ := (Bool.and_eq_true ..).mp facts
  obtain ⟨⟨f, fitted⟩, fit, links⟩ := exists_ok_of_any facts
  have second := RoundAt.first.next matched (of_decide_eq_true some_made) fit
  exact ⟨s, report, settled, (free s report).mpr ⟨rfl, rfl⟩, ⟨f, second, of_decide_eq_true links⟩,
    body, next, ends m made matched (of_decide_eq_true some_made)⟩

end SnapBlocks.Board
