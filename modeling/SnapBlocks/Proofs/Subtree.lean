import SnapBlocks.Board.Subtree
import SnapBlocks.Proofs.Forest

/-!
# The subtree of a block

`Board.subtree` runs a stack of blocks to visit, with a bound on the number of
steps and a list of the blocks already seen. On a forest its answer is what the
name promises: the block and everything it lies above, each once.

The loop is followed by one invariant on its budget. A step takes one block from
the stack and puts at most three on it, and it does the latter only for a block
that it has not seen, so a budget of one step for every block on the stack and
three for every block not yet seen is never used up (`Board.visit_closed`).
-/

namespace SnapBlocks.Board

variable {b c : Board} {id host guest : BlockId}

/-! ## Below, read off either end of a link -/

/-- A block lies above itself or above others only: the reflexive closure. -/
theorem reflTransGen_holds_iff {top : BlockId} :
    Relation.ReflTransGen b.Holds top id ↔ id = top ∨ b.Above top id :=
  Relation.reflTransGen_iff_eq_or_transGen

/-- On a forest the blocks that a block lists below it are those that record it as
their holder. -/
theorem Forest.mem_below_iff (hb : b.Forest) {block : Block} (found : b.get? host = some block) :
    guest ∈ block.links.below ↔ b.Holds host guest := by
  rw [Links.mem_below]
  constructor
  · rintro ⟨slot, h⟩
    exact hb.back_of_held ((held?_of_get? found slot).trans h)
  · intro h
    obtain ⟨slot, h, -⟩ := hb.slot_unique h
    exact ⟨slot, (held?_of_get? found slot).symm.trans h⟩

theorem length_below_le (links : Links) : links.below.length ≤ 3 := by
  have one : ∀ o : Option BlockId, o.toList.length ≤ 1 := fun o => by cases o <;> simp
  rw [Links.below, List.length_append, List.length_append]
  have := one links.argument
  have := one links.body
  have := one links.next
  omega

/-! ## What the traversal visits -/

/-- A visited block is on the board, was not seen before, and lies at or below a block
of the stack. -/
theorem Forest.of_mem_visit (hb : b.Forest) {fuel : Nat} {seen stack : List BlockId}
    (h : id ∈ b.visit fuel seen stack) :
    id < b.size ∧ id ∉ seen ∧ ∃ top ∈ stack, Relation.ReflTransGen b.Holds top id := by
  induction fuel generalizing seen stack with
  | zero => exact absurd h List.not_mem_nil
  | succ fuel ih =>
    cases stack with
    | nil => exact absurd h List.not_mem_nil
    | cons top stack =>
      rw [visit] at h
      have skip : id ∈ b.visit fuel seen stack →
          id < b.size ∧ id ∉ seen ∧ ∃ r ∈ top :: stack, Relation.ReflTransGen b.Holds r id :=
        fun mem => by
          obtain ⟨lt, unseen, r, r_mem, reach⟩ := ih mem
          exact ⟨lt, unseen, r, List.mem_cons_of_mem _ r_mem, reach⟩
      split at h
      · exact skip h
      · rename_i block found
        split at h
        · exact skip h
        · rename_i fresh
          rw [List.contains_iff_mem] at fresh
          rcases List.mem_cons.mp h with rfl | mem
          · exact ⟨lt_of_get? found, fresh, id, List.mem_cons_self, .refl⟩
          · obtain ⟨lt, unseen, r, r_mem, reach⟩ := ih mem
            refine ⟨lt, fun seen => unseen (List.mem_cons_of_mem _ seen), ?_⟩
            rcases List.mem_append.mp r_mem with below | rest
            · exact ⟨top, List.mem_cons_self, .head ((hb.mem_below_iff found).mp below) reach⟩
            · exact ⟨r, List.mem_cons_of_mem _ rest, reach⟩

/-- The traversal lists no block twice. -/
theorem Forest.nodup_visit (hb : b.Forest) (fuel : Nat) (seen stack : List BlockId) :
    (b.visit fuel seen stack).Nodup := by
  induction fuel generalizing seen stack with
  | zero => exact List.nodup_nil
  | succ fuel ih =>
    cases stack with
    | nil => exact List.nodup_nil
    | cons top stack =>
      rw [visit]
      split
      · exact ih _ _
      · split
        · exact ih _ _
        · refine List.nodup_cons.mpr ⟨fun mem => ?_, ih _ _⟩
          exact (hb.of_mem_visit mem).2.1 List.mem_cons_self

/-- How many blocks of the board are not in a list. -/
def unseen (b : Board) (seen : List BlockId) : Nat :=
  ((Finset.range b.size).filter (· ∉ seen)).card

/-- Seeing one more block leaves one fewer unseen. -/
theorem unseen_cons {seen : List BlockId} (lt : id < b.size) (fresh : id ∉ seen) :
    b.unseen (id :: seen) + 1 = b.unseen seen := by
  have erase : (Finset.range b.size).filter (· ∉ id :: seen)
      = ((Finset.range b.size).filter (· ∉ seen)).erase id := by
    ext x
    rw [Finset.mem_erase, Finset.mem_filter, Finset.mem_filter, List.mem_cons, not_or]
    exact and_left_comm
  rw [unseen, erase]
  exact Finset.card_erase_add_one (Finset.mem_filter.mpr ⟨Finset.mem_range.mpr lt, fresh⟩)

/-- **With the budget of the invariant nothing is left out**: every block of the stack,
and everything a visited block holds, has been seen or visited in the end. -/
theorem Forest.visit_closed (hb : b.Forest) {fuel : Nat} {seen stack : List BlockId}
    (budget : stack.length + 3 * b.unseen seen ≤ fuel) :
    (∀ top ∈ stack, top < b.size → top ∈ seen ∨ top ∈ b.visit fuel seen stack) ∧
      ∀ host ∈ b.visit fuel seen stack, ∀ guest, b.Holds host guest →
        guest ∈ seen ∨ guest ∈ b.visit fuel seen stack := by
  induction fuel generalizing seen stack with
  | zero =>
    obtain rfl : stack = [] := List.length_eq_zero_iff.mp (by omega)
    exact ⟨fun _ mem => absurd mem List.not_mem_nil, fun _ mem => absurd mem List.not_mem_nil⟩
  | succ fuel ih =>
    cases stack with
    | nil =>
      exact ⟨fun _ mem => absurd mem List.not_mem_nil, fun _ mem => absurd mem List.not_mem_nil⟩
    | cons top stack =>
      rw [List.length_cons] at budget
      rw [visit]
      split
      · rename_i missing
        obtain ⟨on_stack, closed⟩ := ih (show stack.length + 3 * b.unseen seen ≤ fuel by omega)
        refine ⟨fun r mem lt => ?_, closed⟩
        rcases List.mem_cons.mp mem with rfl | mem
        · exact absurd lt (Nat.not_lt.mpr (get?_eq_none_iff.mp missing))
        · exact on_stack r mem lt
      · rename_i block found
        split
        · rename_i old
          obtain ⟨on_stack, closed⟩ := ih (show stack.length + 3 * b.unseen seen ≤ fuel by omega)
          refine ⟨fun r mem lt => ?_, closed⟩
          rcases List.mem_cons.mp mem with rfl | mem
          · exact .inl (List.contains_iff_mem.mp old)
          · exact on_stack r mem lt
        · rename_i fresh
          rw [List.contains_iff_mem] at fresh
          -- one block leaves the stack and the unseen ones, and at most three are put on it
          have lt : top < b.size := lt_of_get? found
          have fewer := unseen_cons lt fresh
          have three := length_below_le block.links
          have left : (block.links.below ++ stack).length + 3 * b.unseen (top :: seen) ≤ fuel := by
            rw [List.length_append]
            omega
          obtain ⟨on_stack, closed⟩ := ih left
          -- seen now or visited later is: seen before, or visited at this step or later
          have settle : ∀ x,
              x ∈ top :: seen ∨ x ∈ b.visit fuel (top :: seen) (block.links.below ++ stack) →
                x ∈ seen ∨ x ∈ top :: b.visit fuel (top :: seen) (block.links.below ++ stack) := by
            rintro x (now | later)
            · rcases List.mem_cons.mp now with rfl | before
              · exact .inr List.mem_cons_self
              · exact .inl before
            · exact .inr (List.mem_cons_of_mem _ later)
          constructor
          · intro r mem r_lt
            rcases List.mem_cons.mp mem with rfl | mem
            · exact .inr List.mem_cons_self
            · exact settle r (on_stack r (List.mem_append_right _ mem) r_lt)
          · intro host mem guest holds
            rcases List.mem_cons.mp mem with rfl | mem
            · exact settle guest (on_stack guest
                (List.mem_append_left _ ((hb.mem_below_iff found).mpr holds)) (lt_of_back? holds))
            · exact settle guest (closed host mem guest holds)

/-- The traversal follows the links and looks at nothing else. -/
theorem SameLinks.visit_eq (h : b.SameLinks c) (fuel : Nat) (seen stack : List BlockId) :
    b.visit fuel seen stack = c.visit fuel seen stack := by
  induction fuel generalizing seen stack with
  | zero => rfl
  | succ fuel ih =>
    cases stack with
    | nil => rfl
    | cons top stack =>
      have same := h top
      unfold links? at same
      rw [visit, visit]
      cases found : b.get? top with
      | none =>
        rw [found, Option.map_none, eq_comm, Option.map_eq_none_iff] at same
        simp only [same, ih]
      | some block =>
        rw [found, Option.map_some, eq_comm, Option.map_eq_some_iff] at same
        obtain ⟨block', found', links⟩ := same
        simp only [found', links, ih]

/-- Boards with the same links have the same subtrees. -/
theorem SameLinks.subtree_eq (h : b.SameLinks c) (id : BlockId) : b.subtree id = c.subtree id := by
  rw [subtree, subtree, h.size_eq, h.visit_eq]

/-! ## Membership -/

theorem subtree_of_size_le (h : b.size ≤ id) : b.subtree id = [] := by
  rw [subtree, visit, get?_eq_none_iff.mpr h]
  cases 3 * b.size <;> rfl

theorem Forest.nodup_subtree (hb : b.Forest) (id : BlockId) : (b.subtree id).Nodup :=
  hb.nodup_visit _ _ _

/-- **The subtree of a block is the block and what lies under it.** -/
theorem Forest.mem_subtree (hb : b.Forest) {top : BlockId} (lt : top < b.size) :
    id ∈ b.subtree top ↔ id = top ∨ b.Above top id := by
  rw [← reflTransGen_holds_iff]
  constructor
  · intro mem
    obtain ⟨-, -, r, r_mem, reach⟩ := hb.of_mem_visit mem
    obtain rfl : r = top := List.mem_singleton.mp r_mem
    exact reach
  · intro reach
    have budget : [top].length + 3 * b.unseen [] ≤ 3 * b.size + 1 := by
      rw [unseen, Finset.filter_true_of_mem (fun _ _ => List.not_mem_nil), Finset.card_range,
        List.length_singleton, Nat.add_comm]
    obtain ⟨on_stack, closed⟩ := hb.visit_closed budget
    have fresh : ∀ {x}, x ∈ ([] : List BlockId) ∨ x ∈ b.subtree top → x ∈ b.subtree top :=
      fun h => h.resolve_left List.not_mem_nil
    induction reach with
    | refl => exact fresh (on_stack top List.mem_cons_self lt)
    | tail _ holds ih => exact fresh (closed _ ih _ holds)

theorem Forest.mem_subtree_self (hb : b.Forest) (lt : id < b.size) : id ∈ b.subtree id :=
  (hb.mem_subtree lt).mpr (.inl rfl)

/-- A subtree leaves out what its first block lies neither above nor at. -/
theorem Forest.not_mem_subtree (hb : b.Forest) {top : BlockId} (ne : id ≠ top)
    (not_above : ¬ b.Above top id) : id ∉ b.subtree top := by
  intro mem
  by_cases lt : top < b.size
  · exact ((hb.mem_subtree lt).mp mem).elim ne not_above
  · rw [subtree_of_size_le (Nat.not_lt.mp lt)] at mem
    exact List.not_mem_nil mem

/-- A holder is not in the subtree of what it holds. -/
theorem Forest.holder_not_mem_subtree (hb : b.Forest) (h : b.back? guest = some host) :
    host ∉ b.subtree guest := by
  refine hb.not_mem_subtree ?_ fun above => hb.acyclic guest (above.tail h)
  rintro rfl
  exact hb.acyclic host (.single h)

/-- **A link does not leave a subtree**, nor enter it except at its first block. -/
theorem Forest.mem_subtree_iff_of_back? (hb : b.Forest) {top : BlockId} (lt : top < b.size)
    (h : b.back? guest = some host) (ne : guest ≠ top) :
    guest ∈ b.subtree top ↔ host ∈ b.subtree top := by
  rw [hb.mem_subtree lt, hb.mem_subtree lt, above_iff]
  constructor
  · rintro (same | ⟨host', h', up⟩)
    · exact absurd same ne
    · obtain rfl : host = host' := Option.some.inj (h.symm.trans h')
      exact up
  · exact fun up => .inr ⟨host, h, up⟩

end SnapBlocks.Board
