import SnapBlocks.Proofs.Outline

/-!
# Looking down and looking up

What lies under a block can be told in two ways. `Board.subtree` looks down: it follows the
slots, with a stack and a list of the blocks that it has seen. `Board.isAbove` looks up: it
goes from holder to holder, and gives up after a number of steps. Moving relies on the one,
and the question whether a link would close a circle on the other, so a block could be moved
with its own holder, or a circle go unnoticed, if they did not tell the same.

On a forest they do (`Reachable.mem_subtree_iff_isAbove`), for both find what
`Board.Above` says. The limit on the way upward makes no difference there. To state this, the
way upward is described once more, without a limit, by `Board.Ascends`.
-/

namespace SnapBlocks.Board

variable {b : Board} {id host root x y z : BlockId} {line line' : List BlockId}

/-! ## The way upward without a limit -/

/-- **The way upward from a block**: from holder to holder, until a block that nothing
holds. Where the holders run in a circle there is none. -/
inductive Ascends (b : Board) : BlockId → List BlockId → Prop
  /-- Nothing holds the block. -/
  | head {id : BlockId} : b.back? id = none → Ascends b id []
  /-- The way goes on from the holder. -/
  | held {id host : BlockId} {line : List BlockId} : b.back? id = some host →
      Ascends b host line → Ascends b id (host :: line)

/-- There is one way upward. -/
theorem Ascends.unique (h : b.Ascends id line) (h' : b.Ascends id line') : line = line' := by
  induction h generalizing line' with
  | head free =>
    cases h' with
    | head => rfl
    | held holds => exact absurd (free.symm.trans holds) nofun
  | held holds _ ih =>
    cases h' with
    | head free => exact absurd (free.symm.trans holds) nofun
    | held holds' rest =>
      obtain rfl := Option.some.inj (holds.symm.trans holds')
      rw [ih rest]

/-- A climb that is given enough steps is the way upward. -/
theorem ascends_climb {steps limit : Nat} (reach : b.lift steps id = some root)
    (ends : b.back? root = none) (le : steps ≤ limit) : b.Ascends id (b.climb limit id) := by
  induction steps generalizing id limit with
  | zero =>
    cases reach
    have nothing : b.climb limit root = [] := by cases limit <;> simp [climb, ends]
    rw [nothing]
    exact .head ends
  | succ steps ih =>
    obtain ⟨holder, holds, rest⟩ := Option.bind_eq_some_iff.mp reach
    obtain ⟨limit, rfl⟩ := Nat.exists_eq_succ_of_ne_zero (show limit ≠ 0 by omega)
    have first : b.climb (limit + 1) id = holder :: b.climb limit holder := by simp [climb, holds]
    rw [first]
    exact .held holds (ih rest (Nat.le_of_succ_le_succ le))

namespace Forest

variable (hb : b.Forest)

include hb

/-- **The list of ancestors is the way upward**, whole and with nothing else in it. -/
theorem ascends_iff : b.Ascends id line ↔ line = b.ancestors id := by
  have whole : b.Ascends id (b.ancestors id) := by
    by_cases lt : id < b.size
    · obtain ⟨steps, steps_lt, root, reach, ends⟩ := hb.rooted lt
      exact ascends_climb reach ends (Nat.le_succ_of_le steps_lt.le)
    · have free : b.back? id = none := by
        simp [back?, get?_eq_none_iff.mpr (Nat.not_lt.mp lt)]
      rw [ancestors_eq_nil free]
      exact .head free
  constructor
  · exact fun ascends => ascends.unique whole
  · rintro rfl
    exact whole

/-- No block is its own ancestor. -/
theorem isAbove_self (id : BlockId) : b.isAbove id id = false := by
  rw [Bool.eq_false_iff, Ne, hb.isAbove_iff]
  exact hb.acyclic id

/-- An ancestor of an ancestor is an ancestor. -/
theorem isAbove_trans (hxy : b.isAbove x y = true) (hyz : b.isAbove y z = true) :
    b.isAbove x z = true := by
  rw [hb.isAbove_iff] at hxy hyz ⊢
  exact hxy.trans hyz

/-- What lies above another block is on the board. -/
theorem lt_of_isAbove (h : b.isAbove x y = true) : x < b.size := by
  rw [hb.isAbove_iff] at h
  obtain ⟨guest, holds, -⟩ := Relation.TransGen.head'_iff.mp h
  exact hb.back_lt holds

/-- **A block of the board is in the subtree of another**, on the board or not, exactly if it
is that block or lies under it. -/
theorem mem_subtree_iff_of_lt (lt : id < b.size) {top : BlockId} :
    id ∈ b.subtree top ↔ id = top ∨ b.isAbove top id = true := by
  by_cases top_lt : top < b.size
  · rw [hb.mem_subtree top_lt, hb.isAbove_iff]
  · rw [subtree_of_size_le (Nat.not_lt.mp top_lt)]
    constructor
    · exact fun mem => absurd mem List.not_mem_nil
    · rintro (rfl | above)
      · exact absurd lt top_lt
      · exact absurd (hb.lt_of_isAbove above) top_lt

end Forest

/-! ## The main statement -/

/-- **Descendants and ancestors agree** on a board that can come up. The subtree of a block
lists the block itself and the blocks of which it is an ancestor, and no others. No way
upward is cut off by the limit on its length: without one it would be the same, and have
fewer steps than there are blocks. Being an ancestor is irreflexive and transitive. -/
theorem Reachable.mem_subtree_iff_isAbove (h : Reachable b) :
    (∀ top id, top < b.size → (id ∈ b.subtree top ↔ id = top ∨ b.isAbove top id = true)) ∧
    (∀ id line, b.Ascends id line ↔ line = b.ancestors id) ∧
    (∀ id, id < b.size → (b.ancestors id).length < b.size) ∧
    (∀ id, b.isAbove id id = false) ∧
    ∀ x y z, b.isAbove x y = true → b.isAbove y z = true → b.isAbove x z = true := by
  have hb := h.forest
  refine ⟨fun top id lt => ?_, fun _ _ => hb.ascends_iff, fun _ => hb.length_ancestors_lt,
    hb.isAbove_self, fun _ _ _ => hb.isAbove_trans⟩
  rw [hb.mem_subtree lt, hb.isAbove_iff]

/-- The inner one of two conditionals, once both are settled: it lies above the call in its
body and the call that follows it, and its own way upward leads to the outer one. -/
theorem mem_subtree_iff_isAbove_nested : ∃ s report,
    nested.settle standardRange = .ok (s, report) ∧ s.subtree 2 = [2, 3, 4] ∧
      (∀ id, s.isAbove 2 id = true ↔ id = 3 ∨ id = 4) ∧ s.Ascends 3 [2, 0] ∧
        s.isAbove 0 3 = true := by
  have run : (nested.settle standardRange).toOption.any (fun settled =>
      decide (settled.1.size = 6 ∧ settled.1.subtree 2 = [2, 3, 4] ∧
        settled.1.ancestors 3 = [2, 0] ∧ settled.1.isAbove 0 2 = true)) = true := by
    decide +kernel
  obtain ⟨⟨s, report⟩, settled, facts⟩ := exists_ok_of_any run
  obtain ⟨size_eq, below, line, outer⟩ := of_decide_eq_true facts
  obtain ⟨agree, ascends, -, irreflexive, transitive⟩ :=
    Reachable.mem_subtree_iff_isAbove (.settle reachable_nested settled)
  dsimp only at size_eq below line outer
  have above : ∀ id, s.isAbove 2 id = true ↔ id = 3 ∨ id = 4 := by
    intro id
    have listed := agree 2 id (size_eq ▸ by decide)
    rw [below] at listed
    constructor
    · intro is_above
      have ne : id ≠ 2 := by
        rintro rfl
        rw [irreflexive] at is_above
        cases is_above
      simpa [ne] using listed.mpr (.inr is_above)
    · rintro (rfl | rfl)
      · exact (listed.mp (by decide)).resolve_left (by decide)
      · exact (listed.mp (by decide)).resolve_left (by decide)
  exact ⟨s, report, settled, below, above, (ascends 3 _).mpr line.symm,
    transitive 0 2 3 outer ((above 3).mpr (.inl rfl))⟩

end SnapBlocks.Board
