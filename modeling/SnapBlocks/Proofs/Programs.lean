import SnapBlocks.Proofs.Outline

/-!
# A program says every block once

The heads of a board are found by looking upward, since a head is what nothing holds, and
a program is written by going downward from the only head. That nothing is left out is a
matter of both directions: the way upward from any block ends at a head, so the block lies
in the subtree of that head, and in no other, as two heads have nothing below both
(`Forest.heads_subtrees_perm`).

So the subtree of the only head is the whole board, and the outline of the head has the
lines of every statement. An expression has no lines. If it is not itself the head, it
lies in the argument slot of a statement, and its code is the argument there.
-/

namespace SnapBlocks.Board

variable {b : Board} {id host head : BlockId} {block : Block}

/-! ## The subtrees of the heads -/

/-- Every block lies at or below a head. -/
theorem Forest.exists_head (hb : b.Forest) (lt : id < b.size) :
    ∃ head ∈ b.heads, id ∈ b.subtree head := by
  obtain ⟨steps, -, head, reach, free⟩ := hb.rooted lt
  cases steps with
  | zero =>
    obtain rfl : id = head := Option.some.inj reach
    exact ⟨id, mem_heads.mpr ⟨lt, free⟩, hb.mem_subtree_self lt⟩
  | succ steps =>
    have above := above_of_lift reach
    obtain ⟨guest, holds, -⟩ := Relation.TransGen.head'_iff.mp above
    have head_lt := hb.back_lt holds
    exact ⟨head, mem_heads.mpr ⟨head_lt, free⟩, (hb.mem_subtree head_lt).mpr (.inr above)⟩

/-- **The subtrees of two heads have no block in common.** -/
theorem Forest.disjoint_heads (hb : b.Forest) :
    b.heads.Pairwise fun x y => (b.subtree x).Disjoint (b.subtree y) := by
  have nodup : b.heads.Nodup := List.nodup_range.filter _
  refine nodup.pairwise_of_forall_ne fun x hx y hy ne id mem mem' => ?_
  obtain ⟨x_lt, x_free⟩ := mem_heads.mp hx
  obtain ⟨y_lt, y_free⟩ := mem_heads.mp hy
  exact apart_of_heads x_free y_free ne id
    (reflTransGen_holds_iff.mpr ((hb.mem_subtree x_lt).mp mem))
    (reflTransGen_holds_iff.mpr ((hb.mem_subtree y_lt).mp mem'))

/-- **The subtrees of the heads make up the board**: each block is in them once. -/
theorem Forest.heads_subtrees_perm (hb : b.Forest) : (b.heads.flatMap b.subtree).Perm b.ids := by
  have once : (b.heads.flatMap b.subtree).Nodup :=
    List.nodup_flatMap.mpr ⟨fun head _ => hb.nodup_subtree head, hb.disjoint_heads⟩
  refine (List.perm_ext_iff_of_nodup once List.nodup_range).mpr fun id => ?_
  rw [← ids, List.mem_flatMap, mem_ids]
  constructor
  · rintro ⟨head, -, mem⟩
    exact (hb.of_mem_visit mem).1
  · exact hb.exists_head

/-! ## What the only head writes -/

/-- **The expression is the argument in the lines of the host**: it lies in the argument
slot of the host, which is of a kind that writes an argument, and writes its code. -/
def Supplies (b : Board) (id host : BlockId) : Prop :=
  ∃ owner block, b.get? host = some owner ∧ b.get? id = some block ∧
    owner.kind.takesArgument = true ∧ owner.links.argument = some id ∧
    b.argumentText owner = block.code

namespace Supplies

theorem back? (hb : b.Forest) (h : b.Supplies id host) : b.back? id = some host := by
  obtain ⟨owner, -, found, -, -, argument, -⟩ := h
  exact hb.back_of_held ((held?_of_get? found .argument).trans argument)

/-- An expression takes no argument, so the lines are those of a statement. -/
theorem isStatement (h : b.Supplies id host) : b.isStatement host = true := by
  obtain ⟨owner, -, found, -, takes, -⟩ := h
  rw [Board.isStatement, found, Option.any_some, Bool.not_eq_true', Bool.eq_false_iff]
  intro is_inline
  rw [Kind.isInline_iff.mp is_inline] at takes
  cases takes

end Supplies

/-- **A held expression is an argument.** -/
theorem WellHeld.supplies (hw : b.WellHeld) (hb : b.Forest) (found : b.get? id = some block)
    (kind : block.kind = .expression) (holds : b.back? id = some host) : b.Supplies id host := by
  obtain ⟨slot, link, -⟩ := hb.slot_unique holds
  obtain ⟨owner, block', found_host, found', owns, inline⟩ := hw.exists_of_held? link
  obtain rfl : block = block' := Option.some.inj (found.symm.trans found')
  obtain rfl : slot = .argument := inline.mp (Kind.isInline_iff.mpr kind)
  have argument : owner.links.argument = some id :=
    (held?_of_get? found_host .argument).symm.trans link
  refine ⟨owner, block, found_host, found, owns, argument, ?_⟩
  rw [argumentText, argument]
  show ((b.get? id).map _).getD _ = _
  rw [found]
  rfl

/-- **The lines of these blocks say the whole board**: those of every statement are among
them once, and every expression is the argument in those of exactly one. -/
structure Mentions (b : Board) (order : List BlockId) : Prop where
  statements : order.Perm (b.ids.filter b.isStatement)
  arguments : ∀ id block, b.get? id = some block → block.kind = .expression →
    ∃! host, host ∈ order ∧ b.Supplies id host

theorem heads_eq_of_head? (only : b.head? = some head) : b.heads = [head] := by
  unfold head? at only
  split at only
  · rename_i heads
    cases only
    exact heads
  · cases only

section OnlyHead

variable (hb : b.Forest) (hw : b.WellHeld)

include hb hw in
/-- The program of a board is what its only head writes, if there is one. -/
theorem program?_eq : b.program? = .ok (b.head?.map b.script) := by
  unfold program?
  cases only : b.head? with
  | none => rfl
  | some head =>
    have head_lt : head < b.size :=
      (mem_heads.mp (heads_eq_of_head? only ▸ List.mem_singleton_self head)).1
    show (b.listing [some head]).map _ = _
    rw [listing_singleton hb hw head_lt]
    rfl

variable (only : b.heads = [head])

include hb only in
/-- Everything lies at or below the only head. -/
theorem subtree_perm_of_heads : (b.subtree head).Perm b.ids := by
  have once := hb.heads_subtrees_perm
  rwa [only, List.flatMap_singleton] at once

include hb hw only in
/-- An expression is the only head of a board without other blocks. -/
theorem size_eq_one (found : b.get? head = some block) (is_inline : block.kind.isInline = true) :
    b.size = 1 := by
  have length := (subtree_perm_of_heads hb only).length_eq
  rwa [hb.subtree_of_isInline hw found is_inline, ids, List.length_range, eq_comm] at length

include hb hw only in
/-- **A statement that is the only head mentions the whole board.** -/
theorem mentions_of_heads (found : b.get? head = some block)
    (not_inline : block.kind.isInline = false) :
    b.Mentions ((b.subtree head).filter b.isStatement) := by
  have perm := subtree_perm_of_heads hb only
  refine ⟨perm.filter _, fun id expr found_expr kind => ?_⟩
  obtain ⟨host, holds⟩ : ∃ host, b.back? id = some host := by
    refine Option.ne_none_iff_exists'.mp fun free => ?_
    -- else the expression would be the only head
    have mem := mem_heads.mpr ⟨lt_of_get? found_expr, free⟩
    rw [only, List.mem_singleton] at mem
    obtain rfl : block = expr := Option.some.inj (found.symm.trans (mem ▸ found_expr))
    rw [Kind.isInline_iff.mpr kind] at not_inline
    cases not_inline
  have supplies := hw.supplies hb found_expr kind holds
  have listed := perm.mem_iff.mpr (mem_ids.mpr (hb.back_lt holds))
  refine ⟨host, ⟨List.mem_filter.mpr ⟨listed, supplies.isStatement⟩, supplies⟩, ?_⟩
  exact fun host' ⟨_, supplies'⟩ => Option.some.inj ((supplies'.back? hb).symm.trans holds)

end OnlyHead

/-- **No block is lost in a program and none is repeated.** On a board that can come up the
subtrees of the heads have no blocks in common, and all of them together are the board.
Asked for a program, it answers. If the answer is a text, then there is one head; it is an
expression without other blocks around and the text is its code, or the text is made of
the lines of every statement, each of them once, with every expression as the argument in
the lines of one statement. -/
theorem Reachable.program_mentions_all (h : Reachable b) :
    (b.heads.Pairwise fun x y => (b.subtree x).Disjoint (b.subtree y)) ∧
    (b.heads.flatMap b.subtree).Perm b.ids ∧
    (∃ program, b.program? = .ok program) ∧
    ∀ text, b.program? = .ok (some text) → ∃ head, b.heads = [head] ∧
      ((b.size = 1 ∧ ∃ block, b.get? head = some block ∧ block.kind = .expression ∧
          text = block.code) ∨
        ∃ order, b.Mentions order ∧ order = (b.subtree head).filter b.isStatement ∧
          text = String.join (order.map (b.linesOf 0))) := by
  have hb := h.forest
  have hw := h.wellHeld
  refine ⟨hb.disjoint_heads, hb.heads_subtrees_perm, ⟨_, program?_eq hb hw⟩, fun text ok => ?_⟩
  rw [program?_eq hb hw] at ok
  obtain ⟨head, head_eq, rfl⟩ := Option.map_eq_some_iff.mp (Except.ok.inj ok)
  have only := heads_eq_of_head? head_eq
  obtain ⟨head_lt, free⟩ := mem_heads.mp (only ▸ List.mem_singleton_self head)
  obtain ⟨block, found⟩ := exists_get? head_lt
  refine ⟨head, only, ?_⟩
  rw [script_eq found]
  cases is_inline : block.kind.isInline with
  | true =>
    exact .inl ⟨size_eq_one hb hw only found is_inline, block, found,
      Kind.isInline_iff.mp is_inline, rfl⟩
  | false =>
    have top : b.level head = 0 := by
      rw [level, depth_eq_zero free]
      rfl
    refine .inr ⟨_, mentions_of_heads hb hw only found is_inline, rfl, ?_⟩
    show b.outline head = _
    rw [outline, top]
    rfl

/-- The conditionals and the class, six blocks in all, are one program: the condition is
the argument of the first line, and the other blocks have lines of their own. -/
theorem program_mentions_all_nested : ∃ s report,
    nested.settle standardRange = .ok (s, report) ∧
    s.program? = .ok (some
      "if ready:\n    if True:\n        deep()\n    middle()\nclass Foo:\n    pass\n") ∧
    s.Mentions [0, 2, 3, 4, 5] ∧ s.Supplies 1 0 := by
  have run : (nested.settle standardRange).toOption.any (fun settled =>
      decide (settled.1.program?.toOption = some (some
          "if ready:\n    if True:\n        deep()\n    middle()\nclass Foo:\n    pass\n") ∧
        settled.1.heads = [0] ∧ settled.1.size = 6 ∧
        (settled.1.subtree 0).filter settled.1.isStatement = [0, 2, 3, 4, 5] ∧
        settled.1.kind? 1 = some .expression ∧ settled.1.back? 1 = some 0)) = true := by
    decide +kernel
  obtain ⟨⟨s, report⟩, settled, facts⟩ := exists_ok_of_any run
  obtain ⟨text, heads, size, order_eq, kind, back⟩ := of_decide_eq_true facts
  have program := eq_ok_of_toOption text
  have reachable := Reachable.settle reachable_nested settled
  obtain ⟨-, -, -, all⟩ := Reachable.program_mentions_all reachable
  obtain ⟨head, only, ⟨one, -⟩ | ⟨order, mentions, rfl, -⟩⟩ := all _ program
  · exact absurd (one.symm.trans size) (by decide)
  · obtain rfl : head = 0 := (List.cons.inj (only.symm.trans heads)).1
    rw [order_eq] at mentions
    obtain ⟨block, found, expression⟩ := Option.map_eq_some_iff.mp kind
    obtain ⟨host, ⟨-, supplies⟩, -⟩ := mentions.arguments 1 block found expression
    obtain rfl : host = 0 := Option.some.inj ((supplies.back? reachable.forest).symm.trans back)
    exact ⟨s, report, settled, program, mentions, supplies⟩

end SnapBlocks.Board
