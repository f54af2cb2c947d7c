import SnapBlocks.Proofs.Kinds

/-!
# Subtrees in program order

`Board.subtree` keeps a stack and a list of the blocks it has seen. On a forest it does
not need the latter: two blocks that are held by one block have no block below both of
them, so nothing is met twice. What is left of the traversal is a recursion along the
links, a block first and then the subtrees of its argument, of its body and of what
follows it (`Forest.subtree_eq`).

To compare the two, the recursion is first written down by itself, as `Board.preorder`.
It needs no more levels than there are blocks.

The main statement (`Reachable.subtree_in_program_order`) says the same without a word about
levels: subtrees follow the links, and nothing else does. That there is one listing only that
follows them is an induction downward (`Forest.induction_downward`), from the blocks in the
slots of a block to the block.
-/

namespace SnapBlocks.Board

open Relation (ReflTransGen)

variable {b : Board} {id host guest x y : BlockId} {block : Block}

/-! ## Subtrees apart -/

/-- **No block lies at or below both blocks.** -/
def Apart (b : Board) (x y : BlockId) : Prop :=
  ∀ id, ReflTransGen b.Holds x id → ¬ ReflTransGen b.Holds y id

/-- Of two blocks above a third, one is above the other: a block has one holder. -/
theorem reflTransGen_holds_total (hx : ReflTransGen b.Holds x id)
    (hy : ReflTransGen b.Holds y id) : ReflTransGen b.Holds x y ∨ ReflTransGen b.Holds y x := by
  have one_holder : Relator.RightUnique (Function.swap b.Holds) := fun guest host host' h h' =>
    Option.some.inj (Eq.trans (Eq.symm h) h')
  refine (ReflTransGen.total_of_right_unique one_holder hx.swap hy.swap).symm.imp ?_ ?_
  · exact fun h => h.swap
  · exact fun h => h.swap

theorem apart_of_not_above (ne : x ≠ y) (hx : ¬ b.Above x y) (hy : ¬ b.Above y x) :
    b.Apart x y := by
  intro id reach reach'
  rcases reflTransGen_holds_total reach reach' with up | up
  · exact (reflTransGen_holds_iff.mp up).elim ne.symm hx
  · exact (reflTransGen_holds_iff.mp up).elim ne hy

theorem Forest.not_above_of_holds (hb : b.Forest) (hx : b.Holds host x) (hy : b.Holds host y) :
    ¬ b.Above x y := by
  intro above
  obtain ⟨host', holds, up⟩ := above_iff.mp above
  obtain rfl : host = host' := Option.some.inj (Eq.trans (Eq.symm hy) holds)
  rcases up with rfl | up
  · exact hb.acyclic _ (.single hx)
  · exact hb.acyclic _ (up.tail hx)

/-- **Two blocks in slots of one block are apart.** -/
theorem Forest.apart_of_holds (hb : b.Forest) (hx : b.Holds host x) (hy : b.Holds host y)
    (ne : x ≠ y) : b.Apart x y :=
  apart_of_not_above ne (hb.not_above_of_holds hx hy) (hb.not_above_of_holds hy hx)

/-- **Two heads are apart.** -/
theorem apart_of_heads (hx : b.back? x = none) (hy : b.back? y = none) (ne : x ≠ y) :
    b.Apart x y :=
  apart_of_not_above ne (not_above_of_back? hy) (not_above_of_back? hx)

/-- The slots of a block hold different blocks. -/
theorem Forest.nodup_below (hb : b.Forest) (found : b.get? id = some block) :
    block.links.below.Nodup := by
  have differ : ∀ slot slot' {guest}, block.links.held slot = some guest →
      block.links.held slot' = some guest → slot = slot' := by
    intro slot slot' guest h h'
    exact (hb.held_inj ((held?_of_get? found slot).trans h)
      ((held?_of_get? found slot').trans h')).2
  have single : ∀ o : Option BlockId, o.toList.Nodup := fun o => by cases o <;> simp
  unfold Links.below
  refine List.nodup_append.mpr ⟨single _, List.nodup_append.mpr ⟨single _, single _, ?_⟩, ?_⟩
  · rintro guest mem _ mem' rfl
    exact absurd (differ .body .next (Option.mem_toList.mp mem)
      (Option.mem_toList.mp mem')) nofun
  · rintro guest mem _ mem' rfl
    rcases List.mem_append.mp mem' with mem' | mem'
    · exact absurd (differ .argument .body (Option.mem_toList.mp mem)
        (Option.mem_toList.mp mem')) nofun
    · exact absurd (differ .argument .next (Option.mem_toList.mp mem)
        (Option.mem_toList.mp mem')) nofun

/-! ## The recursion along the links -/

/-- A block and everything under it down to a number of levels, in program order. -/
def preorderWithin (b : Board) : Nat → BlockId → List BlockId
  | 0, _ => []
  | levels + 1, id =>
    match b.get? id with
    | none => []
    | some block => id :: block.links.below.flatMap (b.preorderWithin levels)

/-- A block and everything under it, in program order. -/
def preorder (b : Board) (id : BlockId) : List BlockId := b.preorderWithin b.size id

theorem preorderWithin_succ (found : b.get? id = some block) (levels : Nat) :
    b.preorderWithin (levels + 1) id
      = id :: block.links.below.flatMap (b.preorderWithin levels) := by
  rw [preorderWithin, found]

/-- More levels than there can be change nothing: each level has an ancestor more. -/
theorem Forest.preorderWithin_stable (hb : b.Forest) {levels : Nat} (lt : id < b.size)
    (enough : b.size ≤ levels + (b.ancestors id).length) :
    b.preorderWithin (levels + 1) id = b.preorderWithin levels id := by
  induction levels generalizing id with
  | zero =>
    have := hb.length_ancestors_lt lt
    omega
  | succ levels ih =>
    obtain ⟨block, found⟩ := exists_get? lt
    rw [preorderWithin_succ found, preorderWithin_succ found]
    refine congrArg (id :: ·) (List.flatMap_congr fun guest mem => ?_)
    have holds := (hb.mem_below_iff found).mp mem
    have climbed := hb.length_ancestors_of_back? holds
    exact ih (lt_of_back? holds) (by omega)

theorem Forest.preorder_eq (hb : b.Forest) (found : b.get? id = some block) :
    b.preorder id = id :: block.links.below.flatMap b.preorder := by
  unfold preorder
  rw [← hb.preorderWithin_stable (lt_of_get? found) (Nat.le_add_right _ _),
    preorderWithin_succ found]

/-! ## The traversal by a stack -/

/-- **The traversal lists the blocks of the stack one after the other**, each with all that
is below it, if these are apart and have not been seen. The budget is that of
`Forest.visit_closed`. -/
theorem Forest.visit_eq (hb : b.Forest) {fuel : Nat} {seen stack : List BlockId}
    (budget : stack.length + 3 * b.unseen seen ≤ fuel) (within : ∀ top ∈ stack, top < b.size)
    (fresh : ∀ top ∈ stack, ∀ id, ReflTransGen b.Holds top id → id ∉ seen)
    (apart : stack.Pairwise b.Apart) : b.visit fuel seen stack = stack.flatMap b.preorder := by
  induction fuel generalizing seen stack with
  | zero =>
    obtain rfl : stack = [] := List.length_eq_zero_iff.mp (by omega)
    rfl
  | succ fuel ih =>
    cases stack with
    | nil => rfl
    | cons top stack =>
      obtain ⟨lt, within⟩ := List.forall_mem_cons.mp within
      obtain ⟨top_fresh, fresh⟩ := List.forall_mem_cons.mp fresh
      obtain ⟨top_apart, apart⟩ := List.pairwise_cons.mp apart
      obtain ⟨block, found⟩ := exists_get? lt
      have holds : ∀ {guest}, guest ∈ block.links.below → b.Holds top guest :=
        (hb.mem_below_iff found).mp
      have unseen_top : seen.contains top = false := by
        rw [Bool.eq_false_iff, Ne, List.contains_iff_mem]
        exact top_fresh top .refl
      have left : (block.links.below ++ stack).length + 3 * b.unseen (top :: seen) ≤ fuel := by
        have := unseen_cons lt (top_fresh top .refl)
        have := length_below_le block.links
        rw [List.length_cons] at budget
        rw [List.length_append]
        omega
      rw [visit, found]
      show (if seen.contains top = true then _ else _) = _
      rw [unseen_top, if_neg Bool.false_ne_true, List.flatMap_cons, hb.preorder_eq found,
        List.cons_append, ← List.flatMap_append]
      refine congrArg (top :: ·) (ih left ?_ ?_ ?_)
      · intro guest mem
        rcases List.mem_append.mp mem with mem | mem
        · exact lt_of_back? (holds mem)
        · exact within guest mem
      -- what is below a guest of the top is below the top, and is not the top itself
      · intro guest mem id reach
        rw [List.mem_cons, not_or]
        rcases List.mem_append.mp mem with mem | mem
        · refine ⟨?_, top_fresh id (.head (holds mem) reach)⟩
          rintro rfl
          exact hb.acyclic _ (Relation.TransGen.head' (holds mem) reach)
        · refine ⟨?_, fresh guest mem id reach⟩
          rintro rfl
          exact top_apart guest mem _ .refl reach
      · refine List.pairwise_append.mpr ⟨?_, apart, ?_⟩
        · exact (hb.nodup_below found).pairwise_of_forall_ne fun x hx y hy ne =>
            hb.apart_of_holds (holds hx) (holds hy) ne
        · exact fun x hx y hy id reach => top_apart y hy id (.head (holds hx) reach)

theorem Forest.subtree_eq_preorder (hb : b.Forest) (lt : id < b.size) :
    b.subtree id = b.preorder id := by
  have budget : [id].length + 3 * b.unseen [] ≤ 3 * b.size + 1 := by
    rw [unseen, Finset.filter_true_of_mem (fun _ _ => List.not_mem_nil), Finset.card_range,
      List.length_singleton, Nat.add_comm]
  refine (hb.visit_eq budget ?_ ?_ (List.pairwise_singleton ..)).trans (List.flatMap_singleton ..)
  · exact fun top mem => List.mem_singleton.mp mem ▸ lt
  · exact fun _ _ _ _ => List.not_mem_nil

/-- **The subtree of a block is the block and then the subtrees of the blocks in its
slots**, those of its argument, of its body and of its successor in this order. -/
theorem Forest.subtree_eq (hb : b.Forest) (found : b.get? id = some block) :
    b.subtree id = id :: block.links.below.flatMap b.subtree := by
  rw [hb.subtree_eq_preorder (lt_of_get? found), hb.preorder_eq found]
  refine congrArg (id :: ·) (List.flatMap_congr fun guest mem => ?_)
  exact (hb.subtree_eq_preorder (lt_of_back? ((hb.mem_below_iff found).mp mem))).symm

/-- An expression is alone in its subtree. -/
theorem Forest.subtree_of_isInline (hb : b.Forest) (hw : b.WellHeld)
    (found : b.get? id = some block) (is_inline : block.kind.isInline = true) :
    b.subtree id = [id] := by
  rw [hb.subtree_eq found, hw.below_eq_nil found is_inline, List.flatMap_nil]

/-! ## Induction downward -/

/-- **Induction downward**: what holds of a block as soon as it holds of the blocks in its
slots holds of every block. -/
theorem Forest.induction_downward (hb : b.Forest) {P : BlockId → Prop}
    (step : ∀ id block, b.get? id = some block → (∀ guest, b.Holds id guest → P guest) → P id)
    (lt : id < b.size) : P id := by
  -- a block has one ancestor more than its holder, and never as many as there are blocks
  suffices below : ∀ levels id, id < b.size → b.size ≤ levels + (b.ancestors id).length → P id from
    below b.size id lt (Nat.le_add_right _ _)
  intro levels
  induction levels with
  | zero =>
    intro id lt enough
    have := hb.length_ancestors_lt lt
    omega
  | succ levels ih =>
    intro id lt enough
    obtain ⟨block, found⟩ := exists_get? lt
    refine step id block found fun guest holds => ih guest (lt_of_back? holds) ?_
    have := hb.length_ancestors_of_back? holds
    omega

/-! ## The main statement -/

/-- **The listing follows the links**: a block comes first, and then what is listed for its
argument, for its body and for its successor, with nothing for a slot that is empty. -/
def InProgramOrder (b : Board) (list : BlockId → List BlockId) : Prop :=
  ∀ id block, b.get? id = some block → list id = id :: (block.links.argument.elim [] list ++
    (block.links.body.elim [] list ++ block.links.next.elim [] list))

theorem flatMap_below (links : Links) (list : BlockId → List BlockId) :
    links.below.flatMap list = links.argument.elim [] list ++
      (links.body.elim [] list ++ links.next.elim [] list) := by
  have single : ∀ o : Option BlockId, o.toList.flatMap list = o.elim [] list := fun o => by
    cases o <;> simp
  simp only [Links.below, List.flatMap_append, single]

/-- Subtrees follow the links. -/
theorem Forest.inProgramOrder_subtree (hb : b.Forest) : b.InProgramOrder b.subtree := by
  intro id block found
  rw [hb.subtree_eq found, flatMap_below]

/-- **One listing at most follows the links.** -/
theorem Forest.eq_of_inProgramOrder (hb : b.Forest) {list list' : BlockId → List BlockId}
    (h : b.InProgramOrder list) (h' : b.InProgramOrder list') (lt : id < b.size) :
    list id = list' id := by
  refine hb.induction_downward (P := fun id => list id = list' id) ?_ lt
  intro id block found ih
  rw [h id block found, h' id block found, ← flatMap_below, ← flatMap_below]
  exact congrArg (id :: ·) (List.flatMap_congr fun guest mem =>
    ih guest ((hb.mem_below_iff found).mp mem))

/-- **The traversal by a stack is the recursion along the links.** On a board that can come
up the subtree of a block is the block, then the subtree of its argument, then that of its
body, then that of its successor, where there are such blocks, and lists nothing twice. It is
empty for what is not on the board. No other listing is put together in this way. -/
theorem Reachable.subtree_in_program_order (h : Reachable b) :
    (∀ id block, b.get? id = some block → b.subtree id = id ::
      (block.links.argument.elim [] b.subtree ++
        (block.links.body.elim [] b.subtree ++ block.links.next.elim [] b.subtree))) ∧
    (∀ id, (b.subtree id).Nodup) ∧
    (∀ id, b.get? id = none → b.subtree id = []) ∧
    ∀ list, b.InProgramOrder list → ∀ id, id < b.size → list id = b.subtree id := by
  have hb := h.forest
  refine ⟨hb.inProgramOrder_subtree, hb.nodup_subtree, fun id missing => ?_, ?_⟩
  · exact subtree_of_size_le (get?_eq_none_iff.mp missing)
  · exact fun list follows id lt => hb.eq_of_inProgramOrder follows hb.inProgramOrder_subtree lt

/-- The conditional with a block in each of its slots: the condition comes first, then the
body, then what follows, and any listing that follows the links says so. -/
theorem subtree_in_program_order_guarded : ∃ s report,
    guarded.settle standardRange = .ok (s, report) ∧
    s.subtree 0 = 0 :: (s.subtree 1 ++ (s.subtree 2 ++ s.subtree 3)) ∧
    (s.subtree 0).Nodup ∧ s.subtree 4 = [] ∧
    ∀ list, s.InProgramOrder list → list 0 = [0, 1, 2, 3] := by
  have run : (guarded.settle standardRange).toOption.any (fun settled =>
      decide (settled.1.links? 0 = some ⟨some 3, none, some 1, some 2⟩ ∧
        settled.1.subtree 0 = [0, 1, 2, 3] ∧ settled.1.get? 4 = none)) = true := by
    decide +kernel
  obtain ⟨⟨s, report⟩, settled, facts⟩ := exists_ok_of_any run
  obtain ⟨links, listed, missing⟩ := of_decide_eq_true facts
  obtain ⟨order, nodup, unknown, only⟩ :=
    Reachable.subtree_in_program_order (.settle reachable_guarded settled)
  obtain ⟨block, found, held⟩ := Option.map_eq_some_iff.mp links
  have first := order 0 block found
  rw [held] at first
  refine ⟨s, report, settled, first, nodup 0, unknown 4 missing, fun list follows => ?_⟩
  exact (only list follows 0 (lt_of_get? found)).trans listed

end SnapBlocks.Board
