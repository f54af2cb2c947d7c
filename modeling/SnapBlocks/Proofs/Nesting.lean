import SnapBlocks.Proofs.Lineage

/-!
# How many bodies lie around a block

The depth of a block is counted on its way upward: one for each holder that has in its body
slot what the way comes from. `Board.depth` gives up after a number of steps, and asks each
holder anew what lies in its body. So the count is right only as long as no way is longer than
the limit and the links down say the same as the links up.

On a forest both hold (`Reachable.depth_counts_bodies`). `Board.Encloses` counts without a
limit and comes to the same number, which is also that of the body links among all links above
the block (`Board.bodiesAbove`). Link by link, a block in a body lies one level deeper than
its holder, and a block in any other slot at the level of its holder.
-/

namespace SnapBlocks.Board

variable {b : Board} {id host guest : BlockId} {n n' limit : Nat} {line : List BlockId}

/-! ## Counting without a limit -/

/-- **So many bodies lie around a block**, counted from holder to holder up to a block that
nothing holds. Where the holders run in a circle no number is right. -/
inductive Encloses (b : Board) : BlockId → Nat → Prop
  /-- Nothing holds the block. -/
  | head {id : BlockId} : b.back? id = none → Encloses b id 0
  /-- The block lies in the body of its holder. -/
  | inside {id host : BlockId} {n : Nat} : b.back? id = some host →
      b.held? host .body = some id → Encloses b host n → Encloses b id (n + 1)
  /-- The block lies in no body of its holder. -/
  | beside {id host : BlockId} {n : Nat} : b.back? id = some host →
      b.held? host .body ≠ some id → Encloses b host n → Encloses b id n

/-- There is one right number. -/
theorem Encloses.unique (h : b.Encloses id n) (h' : b.Encloses id n') : n = n' := by
  induction h generalizing n' with
  | head free =>
    cases h' with
    | head => rfl
    | inside holds => exact absurd (free.symm.trans holds) nofun
    | beside holds => exact absurd (free.symm.trans holds) nofun
  | inside holds body _ ih =>
    cases h' with
    | head free => exact absurd (free.symm.trans holds) nofun
    | inside holds' _ above =>
      obtain rfl := Option.some.inj (holds.symm.trans holds')
      rw [ih above]
    | beside holds' not_body =>
      obtain rfl := Option.some.inj (holds.symm.trans holds')
      exact absurd body not_body
  | beside holds not_body _ ih =>
    cases h' with
    | head free => exact absurd (free.symm.trans holds) nofun
    | inside holds' body =>
      obtain rfl := Option.some.inj (holds.symm.trans holds')
      exact absurd body not_body
    | beside holds' _ above =>
      obtain rfl := Option.some.inj (holds.symm.trans holds')
      exact ih above

/-! ## Counting the links above a block -/

/-- Whether a link, given by its holder and what it holds, is one into a body. -/
def isBodyLink (b : Board) (link : BlockId × BlockId) : Bool :=
  b.held? link.1 .body = some link.2

/-- The links on a way upward from a block: each holder with the block below it. -/
def linksUp (id : BlockId) (line : List BlockId) : List (BlockId × BlockId) :=
  line.zip (id :: line)

/-- **The number of body links above a block.** -/
def bodiesAbove (b : Board) (id : BlockId) : Nat :=
  (linksUp id (b.ancestors id)).countP b.isBodyLink

theorem countP_linksUp_cons (b : Board) (id host : BlockId) (line : List BlockId) :
    (linksUp id (host :: line)).countP b.isBodyLink
      = (linksUp host line).countP b.isBodyLink
        + if b.held? host .body = some id then 1 else 0 := by
  show ((host, id) :: linksUp host line).countP b.isBodyLink = _
  simp [List.countP_cons, isBodyLink]

/-! ## On a forest -/

/-- A climb of some steps meets no more holders than that. -/
theorem length_climb_le (b : Board) (steps : Nat) (id : BlockId) :
    (b.climb steps id).length ≤ steps := by
  induction steps generalizing id with
  | zero => exact le_rfl
  | succ steps ih =>
    unfold climb
    split
    · exact Nat.zero_le _
    · exact Nat.succ_le_succ (ih _)

/-- A head lies at level zero. -/
theorem level_eq_zero (free : b.back? id = none) : b.level id = 0 := by
  rw [level, depth_eq_zero free]
  rfl

namespace Forest

variable (hb : b.Forest)

include hb

/-- One link up, the level tells whether it leads out of a body. -/
theorem level_of_back? (holds : b.back? guest = some host) :
    b.level guest = b.level host + if b.held? host .body = some guest then 1 else 0 := by
  obtain ⟨slot, link, only⟩ := hb.slot_unique holds
  rw [hb.level_of_held? link]
  by_cases body : slot = .body
  · subst body
    rw [if_pos rfl, if_pos link]
  · rw [if_neg body, if_neg fun held => body (hb.held_inj link held).2, Nat.add_zero]

/-- **Counting without a limit leads to the level.** -/
theorem encloses_level (ascends : b.Ascends id line) : b.Encloses id (b.level id) := by
  induction ascends with
  | head free =>
    rw [level_eq_zero free]
    exact .head free
  | @held id host line holds _ ih =>
    rw [hb.level_of_back? holds]
    split
    · rename_i body
      exact .inside holds body ih
    · rename_i not_body
      exact .beside holds not_body ih

/-- **The level is the number of body links on the way upward.** -/
theorem level_eq_countP (ascends : b.Ascends id line) :
    b.level id = (linksUp id line).countP b.isBodyLink := by
  induction ascends with
  | head free => exact level_eq_zero free
  | held holds _ ih => rw [countP_linksUp_cons, hb.level_of_back? holds, ih]

/-- **A limit that is not shorter than the way upward changes nothing.** -/
theorem depthWithin_eq (enough : (b.ancestors id).length ≤ limit) :
    b.depthWithin limit id = .ok (b.level id) := by
  have reaches : ∀ steps, (b.ancestors id).length ≤ steps →
      b.depthWithin steps id = b.depthWithin (b.ancestors id).length id := by
    intro steps le
    induction steps, le using Nat.le_induction with
    | base => rfl
    | succ steps le ih => exact (hb.depthWithin_stable le).trans ih
  rw [← hb.depth_eq_level, depth, reaches limit enough, reaches (b.size + 1)]
  exact b.length_climb_le (b.size + 1) id

end Forest

/-! ## The main statement -/

/-- **The depth of a block is the number of body links above it**, on a board that can come
up. A block that nothing holds has depth zero. What lies in a body slot is one deeper than
what holds it, and what lies in another slot is as deep. The number is that of the body links
among all links above the block. Counting without a limit gives it and no other, and so does
counting with any limit that is not shorter than the way upward. -/
theorem Reachable.depth_counts_bodies (h : Reachable b) :
    (∀ id, b.back? id = none → b.depth id = .ok 0) ∧
    (∀ host slot guest, b.held? host slot = some guest → ∃ n, b.depth host = .ok n ∧
      b.depth guest = .ok (if slot = .body then n + 1 else n)) ∧
    (∀ id, b.depth id = .ok (b.bodiesAbove id)) ∧
    (∀ id n, b.Encloses id n ↔ b.depth id = .ok n) ∧
    ∀ id limit, (b.ancestors id).length ≤ limit → b.depthWithin limit id = b.depth id := by
  have hb := h.forest
  have way : ∀ id, b.Ascends id (b.ancestors id) := fun id => hb.ascends_iff.mpr rfl
  refine ⟨fun id free => depth_eq_zero free, fun host slot guest link => ?_, fun id => ?_,
    fun id n => ?_, fun id limit enough => ?_⟩
  · refine ⟨b.level host, hb.depth_eq_level host, ?_⟩
    rw [hb.depth_eq_level, hb.level_of_held? link]
  · rw [hb.depth_eq_level, hb.level_eq_countP (way id), bodiesAbove]
  · have counted := hb.encloses_level (way id)
    rw [hb.depth_eq_level]
    constructor
    · intro encloses
      rw [counted.unique encloses]
    · intro same
      exact Except.ok.inj same ▸ counted
  · rw [hb.depthWithin_eq enough, hb.depth_eq_level]

/-- The call in the inner one of two conditionals lies in two bodies. The condition of the
outer one lies in none, and neither does what follows it. -/
theorem depth_counts_bodies_nested : ∃ s report,
    nested.settle standardRange = .ok (s, report) ∧ s.depth 3 = .ok 2 ∧ s.depth 1 = .ok 0 ∧
      s.depth 5 = .ok 0 ∧ s.Encloses 3 2 ∧ s.depthWithin 2 3 = .ok 2 := by
  have run : (nested.settle standardRange).toOption.any (fun settled =>
      decide (settled.1.back? 0 = none ∧ settled.1.held? 0 .argument = some 1 ∧
        settled.1.held? 0 .body = some 2 ∧ settled.1.held? 2 .body = some 3 ∧
        settled.1.held? 0 .next = some 5 ∧ settled.1.ancestors 3 = [2, 0])) = true := by
    decide +kernel
  obtain ⟨⟨s, report⟩, settled, facts⟩ := exists_ok_of_any run
  obtain ⟨top, condition, body, inner, follower, line⟩ := of_decide_eq_true facts
  dsimp only at top condition body inner follower line
  obtain ⟨heads, links, -, encloses, cut⟩ :=
    Reachable.depth_counts_bodies (.settle reachable_nested settled)
  have outermost := heads 0 top
  have deeper : ∀ {host slot guest n}, s.depth host = .ok n → s.held? host slot = some guest →
      s.depth guest = .ok (if slot = .body then n + 1 else n) := by
    intro host slot guest n counted link
    obtain ⟨n', counted', below⟩ := links host slot guest link
    cases counted.symm.trans counted'
    exact below
  have two := deeper (deeper outermost body) inner
  refine ⟨s, report, settled, two, deeper outermost condition, deeper outermost follower,
    (encloses 3 2).mpr two, ?_⟩
  rw [cut 3 2 (by rw [line]; decide)]
  exact two

end SnapBlocks.Board
