import SnapBlocks.Proofs.Disputes

/-!
# Settling a settled board

Links are made anew from where the blocks lie, so settling a settled board need not
lead back to it. The first round decides: it either makes all links of the settled
board again, or some other link, and no later round takes a link back. So the settled
board is left alone exactly if one round and one fitting build it up again
(`settle_settled_iff_rebuilt`). Only for a range of zero or less, where a link needs a
distance that is not a number, may it take further rounds.

If the slots in use lie at finite points this can be told without matching anything:
no link may be disputed, and fitting the nests must change nothing
(`settle_settled_iff_undisputed`). Both conditions can fail. Four calls are enough for
the first, see `rivals`.
-/

namespace SnapBlocks.Board

variable {b c f m s : Board} {range : Float32} {report : Report}

/-! ## The first round decides -/

/-- **One round and one fitting build the board up again** from its blocks alone. -/
def RebuiltAtOnce (s : Board) (range : Float32) : Prop :=
  ∃ m made fitted, s.unlink.round range = .ok (m, made) ∧ m.fitAll = .ok (s, fitted)

/-- Further rounds after the first build the board up again. -/
def RebuiltLater (s : Board) (range : Float32) : Prop :=
  ∃ m made f fitted total last, s.unlink.round range = .ok (m, made) ∧ made ≠ 0 ∧
    m.fitAll = .ok (f, fitted) ∧ moreRounds range s.size f made fitted = .ok (s, total, last)

/-- Settling never changes the number of blocks. -/
theorem stable_size (n : Nat) (range : Float32) : Stable range (·.size = n) where
  attach := fun {_ _ _ _ _} _ same _ => (size_attach ..).trans same
  refit := fun {b nest block extent} _ same _ _ =>
    (sameRoles_refit b nest block extent).sameLinks.size_eq.symm.trans same

/-- Rounds that lead back to the links they start from leave the board as it is. -/
theorem Forest.eq_of_moreRounds (hf : f.Forest) (same : f.SameLinks s)
    {limit links fitted total last : Nat}
    (run : moreRounds range limit f links fitted = .ok (s, total, last)) : s = f := by
  cases limit with
  | zero =>
    cases run
    rfl
  | succ limit =>
    obtain ⟨m, made, matched, ⟨rfl, rfl, -⟩ | ⟨some_made, g, count, fit, run⟩⟩ :=
      moreRounds_cases run
    · exact (round_eq_zero_iff.mp matched).2
    -- the new links would never be taken back, and leave fewer heads than there are in the end
    · obtain ⟨hm, size_eq, -⟩ := hf.of_round (stable_true range) trivial matched
      obtain ⟨hg, grows, -⟩ := hm.of_fitAll (stable_grows m range) (.refl m) fit
      obtain ⟨hs, grows⟩ := hg.of_moreRounds (stable_grows m range) grows run
      have heads := length_heads_of_round matched
      have fewer := grows.length_heads_le hm hs (size_eq.trans same.size_eq)
      rw [same.heads_eq] at heads
      omega

/-- **What settling makes in its first round stays**, and if nothing is added later, the
first fitting is the last. -/
theorem first_round_of_settle (settled : b.settle range = .ok (s, report)) :
    ∃ m made f fitted, b.unlink.round range = .ok (m, made) ∧ m.fitAll = .ok (f, fitted) ∧
      m.Grows s ∧ (made = 0 → s = f) ∧ (m.SameLinks s → s = f) := by
  obtain ⟨m, made, f, fitted, total, last, matched, fit, -, ended⟩ := settle_eq_ok_iff.mp settled
  obtain ⟨hm, -⟩ := b.unlinked_unlink.forest.of_round (stable_true range) trivial matched
  obtain ⟨hf, grows, -⟩ := hm.of_fitAll (stable_grows m range) (.refl m) fit
  refine ⟨m, made, f, fitted, matched, fit, ?_⟩
  obtain ⟨-, rfl, -⟩ | ⟨some_made, more⟩ := ended
  · exact ⟨grows, fun _ => rfl, fun _ => rfl⟩
  · refine ⟨(hf.of_moreRounds (stable_grows m range) grows more).2,
      fun none_made => absurd none_made some_made, fun same => ?_⟩
    exact hf.eq_of_moreRounds ((sameRoles_of_fitAll fit).sameLinks.symm.trans same) more

/-- A settled board that settles to itself gives the same report again. -/
theorem settle_settled_iff (settled : b.settle range = .ok (s, report)) :
    s.settle range = .ok (s, report) ↔ ∃ report', s.settle range = .ok (s, report') := by
  refine ⟨fun again => ⟨report, again⟩, fun ⟨report', again⟩ => ?_⟩
  obtain ⟨-, size_eq⟩ := of_settle (stable_size b.size range) b.size_unlink settled
  rw [again, report_of_settle settled, report_of_settle again, size_eq]

/-- **A settled board that one round builds up again settles to itself**: the next round
finds nothing to attach. -/
theorem RebuiltAtOnce.settle_settled (h : s.RebuiltAtOnce range)
    (settled : b.settle range = .ok (s, report)) : s.settle range = .ok (s, report) := by
  obtain ⟨m, made, fitted, matched, fit⟩ := h
  have same := (sameRoles_of_fitAll fit).sameLinks
  refine (settle_settled_iff settled).mpr ⟨⟨made, s.heads.length, fitted⟩, ?_⟩
  refine settle_eq_ok_iff.mpr ⟨m, made, s, fitted, made, fitted, matched, fit, rfl, ?_⟩
  by_cases none_made : made = 0
  · exact .inl ⟨none_made, rfl, none_made, rfl⟩
  · -- the settled board has links, so it was not left by a first round that made none
    have saturated : s.Saturated range := by
      refine saturated_of_settle settled fun first => none_made ?_
      obtain ⟨m', made', f', fitted', matched', fit', -, last, -⟩ := first_round_of_settle settled
      obtain ⟨rfl, rfl⟩ := ok_unique matched' (round_eq_zero_iff.mpr ⟨first, rfl⟩)
      obtain rfl := last rfl
      have heads := length_heads_of_round matched
      rw [same.heads_eq, ← (sameRoles_of_fitAll fit').sameLinks.heads_eq,
        s.unlinked_unlink.length_heads, b.unlinked_unlink.length_heads, size_unlink, size_unlink,
        ← (sameRoles_of_fitAll fit').sameLinks.size_eq, size_unlink] at heads
      omega
    have more : ∀ limit, moreRounds range limit s made fitted = .ok (s, made, fitted) := by
      intro limit
      cases limit with
      | zero => rfl
      | succ limit =>
        rw [moreRounds, round_eq_zero_iff.mpr ⟨saturated, rfl⟩]
        rfl
    exact .inr ⟨none_made, more s.size⟩

/-- **When settling a settled board changes nothing**: exactly when one round and one
fitting build it up again, or, for a range of zero or less, further rounds do. -/
theorem settle_settled_iff_rebuilt (settled : b.settle range = .ok (s, report)) :
    s.settle range = .ok (s, report) ↔
      s.RebuiltAtOnce range ∨ range ≤ 0 ∧ s.RebuiltLater range := by
  constructor
  · intro again
    obtain ⟨m, made, f, fitted, matched, fit, grows, -, last⟩ := first_round_of_settle again
    by_cases pos : range ≤ 0
    · obtain ⟨m', made', f', fitted', total, last, matched', fit', -, ended⟩ :=
        settle_eq_ok_iff.mp again
      obtain ⟨-, rfl, -⟩ | ⟨some_made, more⟩ := ended
      · exact .inl ⟨m', made', fitted', matched', fit'⟩
      · exact .inr ⟨pos, m', made', f', fitted', total, last, matched', some_made, fit', more⟩
    -- all links are made in the first round again, so nothing is left for the later ones
    · obtain rfl := last ((sound_of_settle settled).sameLinks_of_round pos matched grows)
      exact .inl ⟨m, made, fitted, matched, fit⟩
  · rintro (at_once | ⟨-, m, made, f, fitted, total, last, matched, some_made, fit, more⟩)
    · exact at_once.settle_settled settled
    · exact (settle_settled_iff settled).mpr ⟨⟨total, s.heads.length, last⟩, settle_eq_ok_iff.mpr
        ⟨m, made, f, fitted, total, last, matched, fit, rfl, .inr ⟨some_made, more⟩⟩⟩

/-! ## Finite points -/

/-- **When settling a board settled at finite points changes nothing**: exactly when its
links are undisputed and all bars fit, and, if the range is zero or less, when there are
no links. -/
theorem settle_settled_iff_undisputed (finite : s.FinitelyLinked)
    (settled : b.settle range = .ok (s, report)) : s.settle range = .ok (s, report) ↔
      (range ≤ 0 → s.Unlinked) ∧ s.Undisputed range ∧ ∃ fitted, s.fitAll = .ok (s, fitted) := by
  have hs := sound_of_settle settled
  have pos : (range ≤ 0 → s.Unlinked) →
      ∀ host slot guest, s.held? host slot = some guest → ¬ range ≤ 0 := by
    intro unlinked host slot guest link nonpos
    rw [(unlinked nonpos).held?] at link
    cases link
  constructor
  · intro again
    obtain ⟨m, made, f, fitted, matched, fit, grows, none_made, last⟩ := first_round_of_settle again
    have unlinked : range ≤ 0 → s.Unlinked := by
      intro nonpos
      have run := matched
      rw [round_eq_trials] at run
      obtain rfl := hs.made_eq_of_nonpos finite nonpos s.unlink.on_of_mem_trials run grows
      obtain rfl := none_made rfl
      obtain ⟨-, rfl⟩ := round_eq_zero_iff.mp matched
      have same := (sameRoles_of_fitAll fit).sameLinks
      exact fun id links found => s.unlinked_unlink id links ((same id).trans found)
    obtain ⟨rfl, undisputed⟩ := hs.round_unlink finite (pos unlinked) matched (.inl grows)
    obtain rfl := last (.refl m)
    exact ⟨unlinked, undisputed, fitted, fit⟩
  · rintro ⟨unlinked, undisputed, fitted, fit⟩
    obtain ⟨m, made, matched, -⟩ :=
      s.unlinked_unlink.forest.exists_round (stable_true range) trivial
    obtain ⟨rfl, -⟩ := hs.round_unlink finite (pos unlinked) matched (.inr undisputed)
    exact RebuiltAtOnce.settle_settled ⟨m, made, fitted, matched, fit⟩ settled

/-- **When settling a settled board changes nothing.** In any case it does exactly if one
round and one fitting build the board up again, or, for a range of zero or less, if
further rounds do. If the slots in use lie at finite points it does exactly if the links
are undisputed and all bars fit, and, for a range of zero or less, there are no links. -/
theorem settle_again_iff (settled : b.settle range = .ok (s, report)) :
    (s.settle range = .ok (s, report) ↔
      s.RebuiltAtOnce range ∨ range ≤ 0 ∧ s.RebuiltLater range) ∧
    (s.FinitelyLinked → (s.settle range = .ok (s, report) ↔
      (range ≤ 0 → s.Unlinked) ∧ s.Undisputed range ∧ ∃ fitted, s.fitAll = .ok (s, fitted))) :=
  ⟨settle_settled_iff_rebuilt settled, fun finite => settle_settled_iff_undisputed finite settled⟩

/-! ## A slot with two candidates -/

/-- Four calls. The third lies below the second and the first below the fourth; drawn to
the fourth, the first comes near to the slot that the third has got by then. -/
def rivals : Board :=
  (((empty.push (Block.place .call ⟨30, 60⟩)).push (Block.place .call ⟨0, 0⟩)).push
    (Block.place .call ⟨5, 55⟩)).push (Block.place .call ⟨15, 5⟩)

theorem reachable_rivals : rivals.Reachable :=
  .push .call ⟨15, 5⟩ "" (.push .call ⟨5, 55⟩ "" (.push .call ⟨0, 0⟩ "" (.push .call ⟨30, 60⟩ ""
    .empty)))

/-- Settling the four calls again gives another board, though no point of theirs lies too far
away and there is no bar to be fitted. -/
theorem settle_rivals : ∃ s report, rivals.settle standardRange = .ok (s, report) ∧
    s.settle standardRange ≠ .ok (s, report) ∧ s.FinitelyLinked ∧ s.fitAll = .ok (s, 0) := by
  have run : (rivals.settle standardRange).toOption.any (fun settled =>
      decide ((settled.1.settle standardRange).toOption ≠ some settled ∧
        settled.1.FinitelyLinked ∧ settled.1.fitAll.toOption = some (settled.1, 0))) = true := by
    decide +kernel
  obtain ⟨⟨s, report⟩, settled, facts⟩ := exists_ok_of_any run
  obtain ⟨differs, finite, fits⟩ := of_decide_eq_true facts
  refine ⟨s, report, settled, fun again => differs ?_, finite, eq_ok_of_toOption fits⟩
  rw [again]
  rfl

/-- The four calls are not built up again, neither at once nor later. Their slots lie at finite
points and all bars fit, so it is their links that are disputed. -/
theorem settle_again_rivals : ∃ s report, rivals.settle standardRange = .ok (s, report) ∧
    s.settle standardRange ≠ .ok (s, report) ∧ ¬ s.RebuiltAtOnce standardRange ∧
    s.FinitelyLinked ∧ ¬ standardRange ≤ 0 ∧ s.fitAll = .ok (s, 0) ∧
    ¬ s.Undisputed standardRange := by
  obtain ⟨s, report, settled, differs, finite, fits⟩ := settle_rivals
  obtain ⟨rebuilt, undisputed⟩ := settle_again_iff settled
  have positive : ¬ standardRange ≤ 0 := by decide
  refine ⟨s, report, settled, differs, fun at_once => ?_, finite, positive, fits, fun calm => ?_⟩
  · exact differs (rebuilt.mpr (.inl at_once))
  · exact differs ((undisputed finite).mpr ⟨fun nonpos => absurd nonpos positive, calm, 0, fits⟩)

/-- **Settling a settled board may change it.** -/
theorem not_forall_settle_settled : ¬ ∀ (b s : Board) (range : Float32) (report : Report),
    b.Reachable → b.settle range = .ok (s, report) → s.settle range = .ok (s, report) := by
  intro always
  obtain ⟨s, report, settled, differs, -⟩ := settle_rivals
  exact differs (always _ _ _ _ reachable_rivals settled)

end SnapBlocks.Board
