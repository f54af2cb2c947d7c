import Mathlib.Data.List.Chain
import SnapBlocks.Proofs.Outline

/-!
# Chains and programs end

A chain is followed from successor to successor, and a program is written by following the
links of all slots, and neither keeps a list of the blocks that it has seen. If the links ran
in a circle, they would be followed for ever. `Board.chain` and `Board.tokens` have a limit
for this case alone, and call it a fault to reach it.

On a board that can come up they do not (`Reachable.walks_end`). To say so, both are described
once more without a limit. `Board.Proceeds` is a chain. `Board.Emits` is the writing of a
program, taken apart into chains, blocks, arguments and bodies, which are written by means of
one another. A walk without an end is one for which there is no derivation.

Every block that is written leaves a mark among the tokens. The marks of a program are its
subtree, in order (`Emits.entered_eq`), and a subtree lists nothing twice.
-/

namespace SnapBlocks

/-- **A stretch of a program**, as far as it is written by a rule of its own. -/
inductive Stretch where
  /-- A block, its successor, the successor of that, and so on. -/
  | chain (start : Option BlockId)
  /-- A block alone. -/
  | block (id : BlockId)
  /-- What stands for the argument of a block. -/
  | argument (host : BlockId)
  /-- What stands for the body of a block. -/
  | body (host : BlockId)

/-- The blocks that a statement enters are those of its argument and then those of its body. -/
theorem Kind.entered_statement (kind : Kind) (code : String) (argument body : List Token) :
    (kind.statement code argument body).filterMap Token.entered?
      = (if kind.takesArgument then argument.filterMap Token.entered? else []) ++
        (if kind.hasBody then body.filterMap Token.entered? else []) := by
  cases kind with
  | nest form =>
    cases form <;> simp [statement, takesArgument, hasBody, Token.entered?, List.filterMap_cons]
  | _ => simp [statement, takesArgument, hasBody, Token.entered?, List.filterMap_cons]

namespace Board

variable {b : Board} {id start : BlockId} {block : Block} {ids : List BlockId} {ts : List Token}
  {fuel : Nat}

/-! ## Chains -/

/-- **The chain from a block on**, however long it is. Where successors run in a circle there
is none. -/
inductive Proceeds (b : Board) : Option BlockId → List BlockId → Prop
  /-- Nothing follows. -/
  | ended : Proceeds b none []
  /-- A block, and what follows it. -/
  | step {id : BlockId} {rest : List BlockId} : Proceeds b (b.held? id .next) rest →
      Proceeds b (some id) (id :: rest)

namespace Proceeds

variable {first : Option BlockId}

theorem unique {ids' : List BlockId} (h : b.Proceeds first ids) (h' : b.Proceeds first ids') :
    ids = ids' := by
  induction h generalizing ids' with
  | ended =>
    cases h'
    rfl
  | step _ ih =>
    obtain - | rest := h'
    rw [ih rest]

/-- A chain that was listed before the limit was reached is the chain. -/
theorem of_chainWithin (listed : b.chainWithin fuel first = .ok ids) : b.Proceeds first ids := by
  induction fuel generalizing first ids with
  | zero =>
    cases first with
    | none =>
      cases listed
      exact .ended
    | some id => cases listed
  | succ fuel ih =>
    cases first with
    | none =>
      cases listed
      exact .ended
    | some id =>
      rw [chainWithin_succ] at listed
      obtain ⟨rest, more, rfl⟩ := map_eq_ok listed
      exact .step (ih more)

theorem head?_eq (h : b.Proceeds first ids) : ids.head? = first := by
  cases h with
  | ended => rfl
  | step _ => rfl

/-- Every block of a chain is the successor of the one before. -/
theorem isChain (h : b.Proceeds first ids) :
    ids.IsChain fun id follower => b.held? id .next = some follower := by
  induction h with
  | ended => exact .nil
  | step rest ih =>
    refine List.isChain_cons.mpr ⟨fun follower mem => ?_, ih⟩
    rw [← rest.head?_eq]
    exact mem

/-- A chain does not stop at a block that has a successor. -/
theorem held?_getLast (h : b.Proceeds first ids) {last : BlockId}
    (ends : ids.getLast? = some last) : b.held? last .next = none := by
  induction h with
  | ended => cases ends
  | @step id rest more ih =>
    cases rest with
    | nil =>
      cases ends
      exact more.head?_eq.symm
    | cons follower rest =>
      rw [List.getLast?_cons_cons] at ends
      exact ih ends

/-- Every block of a chain lies above the blocks behind it. -/
theorem pairwise_above (h : b.Proceeds first ids) (hb : b.Forest) : ids.Pairwise b.Above := by
  have : Trans b.Above b.Above b.Above := ⟨Relation.TransGen.trans⟩
  exact List.isChain_iff_pairwise.mp (h.isChain.imp fun _ _ next => .single (hb.back_of_held next))

theorem nodup (h : b.Proceeds first ids) (hb : b.Forest) : ids.Nodup := by
  refine (h.pairwise_above hb).imp ?_
  rintro id _ above rfl
  exact hb.acyclic id above

end Proceeds

/-- A name that is not on the board is a chain of its own. -/
theorem chain_of_size_le (missing : b.size ≤ id) : b.chain (some id) = .ok [id] := by
  have no_block : b.held? id .next = none := by
    rw [held?, get?_eq_none_iff.mpr missing, Option.bind_none]
  rw [chain, chainWithin_succ, no_block]
  cases b.size <;> rfl

/-- On a forest every chain can be listed, and stays on the board if it starts there. -/
theorem Forest.exists_chain (hb : b.Forest) (id : BlockId) :
    ∃ ids, b.chain (some id) = .ok ids ∧ (id < b.size → ∀ member ∈ ids, member < b.size) := by
  by_cases lt : id < b.size
  · have enough : b.size ≤ b.size + 1 + (b.ancestors id).length := by omega
    obtain ⟨ids, listed, within⟩ := hb.exists_chainWithin lt enough
    exact ⟨ids, listed, fun _ => within⟩
  · exact ⟨[id], chain_of_size_le (Nat.not_lt.mp lt), fun on => absurd on lt⟩

/-! ## Programs -/

/-- **What is written for a stretch of a program**, however deep the links lead. Where they
run in a circle there is nothing. -/
inductive Emits (b : Board) : Stretch → List Token → Prop
  /-- The chain is over. -/
  | ended : Emits b (.chain none) []
  /-- A block of a chain is written, and then the rest of the chain. -/
  | next {id : BlockId} {first rest : List Token} : Emits b (.block id) first →
      Emits b (.chain (b.held? id .next)) rest → Emits b (.chain (some id)) (first ++ rest)
  /-- A block is written by means of its argument and its body. -/
  | block {id : BlockId} {block : Block} {argument body : List Token} :
      b.get? id = some block → Emits b (.argument id) argument → Emits b (.body id) body →
      Emits b (.block id) (.enter id :: block.kind.statement block.code argument body)
  /-- The block takes no argument. -/
  | noArgument {host : BlockId} {owner : Block} : b.get? host = some owner →
      owner.kind.takesArgument = false → Emits b (.argument host) []
  /-- The argument is missing. -/
  | placeholder {host : BlockId} {owner : Block} : b.get? host = some owner →
      owner.kind.takesArgument = true → owner.links.argument = none →
      Emits b (.argument host) [.text owner.kind.placeholder]
  /-- The argument is a block, which is written without what follows it. -/
  | argument {host guest : BlockId} {owner : Block} {ts : List Token} :
      b.get? host = some owner → owner.kind.takesArgument = true →
      owner.links.argument = some guest → Emits b (.block guest) ts → Emits b (.argument host) ts
  /-- The block has no body. -/
  | noBody {host : BlockId} {owner : Block} : b.get? host = some owner →
      owner.kind.hasBody = false → Emits b (.body host) []
  /-- The body is empty. -/
  | emptyBody {host : BlockId} {owner : Block} : b.get? host = some owner →
      owner.kind.hasBody = true → owner.links.body = none → Emits b (.body host) emptyBody
  /-- The body is a chain. -/
  | body {host first : BlockId} {owner : Block} {ts : List Token} :
      b.get? host = some owner → owner.kind.hasBody = true → owner.links.body = some first →
      Emits b (.chain (some first)) ts → Emits b (.body host) ts

/-- **A stretch is written in one way**: the block decides which of the rules for its argument
applies, and which of those for its body. -/
theorem Emits.unique {stretch : Stretch} {ts' : List Token} (h : b.Emits stretch ts)
    (h' : b.Emits stretch ts') : ts = ts' := by
  induction h generalizing ts' with
  | ended =>
    cases h'
    rfl
  | next _ _ ih_first ih_rest =>
    cases h' with
    | next first rest => rw [ih_first first, ih_rest rest]
  | block found _ _ ih_argument ih_body =>
    cases h' with
    | block found' argument body =>
      cases found.symm.trans found'
      rw [ih_argument argument, ih_body body]
  | noArgument | placeholder | argument | noBody | emptyBody | body => cases h' <;> grind

/-- The tokens of a block have been put together from those of its argument, of its body and
of what comes after. -/
theorem parts_of_emit {follow : Bool} (written : b.emit (fuel + 1) follow (some id) = .ok ts) :
    ∃ block argument body rest, b.get? id = some block ∧
      b.argumentTokens fuel block = .ok argument ∧ b.bodyTokens fuel block = .ok body ∧
      (if follow then b.emit fuel true block.links.next else pure []) = .ok rest ∧
      ts = .enter id :: block.kind.statement block.code argument body ++ rest := by
  rw [emit_succ] at written
  obtain ⟨block, found, written⟩ := bind_eq_ok written
  obtain ⟨argument, argument_ok, written⟩ := bind_eq_ok written
  obtain ⟨body, body_ok, written⟩ := bind_eq_ok written
  obtain ⟨rest, rest_ok, written⟩ := bind_eq_ok written
  exact ⟨block, argument, body, rest, fetch_eq_ok_iff.mp found, argument_ok, body_ok, rest_ok,
    (Except.ok.inj written).symm⟩

/-- The tokens of an argument are what there is to write, if those of single blocks are. -/
theorem emits_of_argumentTokens (found : b.get? id = some block)
    (of_block : ∀ {id ts}, b.emit fuel false (some id) = .ok ts → b.Emits (.block id) ts)
    (written : b.argumentTokens fuel block = .ok ts) : b.Emits (.argument id) ts := by
  unfold argumentTokens at written
  cases takes : block.kind.takesArgument with
  | false =>
    rw [takes] at written
    cases written
    exact .noArgument found takes
  | true =>
    cases held : block.links.argument with
    | none =>
      rw [takes, held] at written
      cases written
      exact .placeholder found takes held
    | some guest =>
      rw [takes, held] at written
      exact .argument found takes held (of_block written)

/-- The tokens of a body are what there is to write, if those of chains are. -/
theorem emits_of_bodyTokens (found : b.get? id = some block)
    (of_chain : ∀ {first ts}, b.emit fuel true first = .ok ts → b.Emits (.chain first) ts)
    (written : b.bodyTokens fuel block = .ok ts) : b.Emits (.body id) ts := by
  unfold bodyTokens at written
  cases has : block.kind.hasBody with
  | false =>
    rw [has] at written
    cases written
    exact .noBody found has
  | true =>
    cases held : block.links.body with
    | none =>
      rw [has, held] at written
      cases written
      exact .emptyBody found has held
    | some first =>
      rw [has, held] at written
      exact .body found has held (of_chain written)

/-- **What was written before the limit was reached is what there is to write.** -/
theorem emits_of_emit :
    (∀ {first ts}, b.emit fuel true first = .ok ts → b.Emits (.chain first) ts) ∧
      ∀ {id ts}, b.emit fuel false (some id) = .ok ts → b.Emits (.block id) ts := by
  induction fuel with
  | zero =>
    refine ⟨fun {first ts} written => ?_, fun {id ts} written => ?_⟩
    · cases first with
      | none =>
        cases written
        exact .ended
      | some id => cases written
    · cases written
  | succ fuel ih =>
    obtain ⟨of_chain, of_block⟩ := ih
    refine ⟨fun {first ts} written => ?_, fun {id ts} written => ?_⟩
    · cases first with
      | none =>
        cases written
        exact .ended
      | some id =>
        obtain ⟨block, argument, body, rest, found, argument_ok, body_ok, rest_ok, rfl⟩ :=
          parts_of_emit written
        rw [if_pos rfl] at rest_ok
        refine .next (.block found (emits_of_argumentTokens found of_block argument_ok)
          (emits_of_bodyTokens found of_chain body_ok)) ?_
        rw [held?_of_get? found]
        exact of_chain rest_ok
    · obtain ⟨block, argument, body, rest, found, argument_ok, body_ok, rest_ok, rfl⟩ :=
        parts_of_emit written
      cases rest_ok
      rw [List.append_nil]
      exact .block found (emits_of_argumentTokens found of_block argument_ok)
        (emits_of_bodyTokens found of_chain body_ok)

/-! ## Blocks that are entered -/

/-- The blocks under a stretch of a program, in program order. -/
def under (b : Board) : Stretch → List BlockId
  | .chain start => start.elim [] b.subtree
  | .block id => id :: ((b.held? id .argument).elim [] b.subtree ++
      (b.held? id .body).elim [] b.subtree)
  | .argument host => (b.held? host .argument).elim [] b.subtree
  | .body host => (b.held? host .body).elim [] b.subtree

/-- **Writing enters the blocks under what is written**, each of them once and in program
order. -/
theorem Emits.entered_eq {stretch : Stretch} (h : b.Emits stretch ts) (hb : b.Forest)
    (hw : b.WellHeld) : ts.filterMap Token.entered? = b.under stretch := by
  induction h with
  | ended => rfl
  | @next id first rest written _ ih_first ih_rest =>
    obtain ⟨block, found⟩ : ∃ block, b.get? id = some block := by
      cases written with
      | block found => exact ⟨_, found⟩
    rw [List.filterMap_append, ih_first, ih_rest]
    show _ = b.subtree id
    rw [hb.inProgramOrder_subtree id block found]
    simp only [under, held?_of_get? found, Links.held, List.cons_append, List.append_assoc]
  | @block id block argument body found _ _ ih_argument ih_body =>
    rw [List.filterMap_cons]
    show id :: (block.kind.statement block.code argument body).filterMap Token.entered? = _
    rw [Kind.entered_statement, ih_argument, ih_body]
    -- a slot that the kind does not own is empty, so leaving it out makes no difference
    have no_argument : block.kind.takesArgument = false → b.held? id .argument = none :=
      fun takes => hw.held?_eq_none found takes
    have no_body : block.kind.hasBody = false → b.held? id .body = none :=
      fun has => hw.held?_eq_none found has
    cases takes : block.kind.takesArgument <;> cases has : block.kind.hasBody <;>
      simp [under, no_argument, no_body, takes, has]
  | @noArgument host owner found takes =>
    have empty : b.held? host .argument = none := hw.held?_eq_none found takes
    rw [under, empty]
    rfl
  | placeholder found _ empty =>
    rw [under, held?_of_get? found, Links.held, empty]
    rfl
  | @argument host guest owner ts found _ held _ ih =>
    have link : b.held? host .argument = some guest := (held?_of_get? found _).trans held
    obtain ⟨-, block, -, found_guest, -, inline⟩ := hw.exists_of_held? link
    -- an expression holds nothing, so it is all of its subtree
    have nothing : ∀ slot, b.held? guest slot = none := fun slot =>
      hw.held?_eq_none found_guest (Kind.owns_eq_false (inline.mpr rfl) slot)
    rw [ih, under, under, link, nothing, nothing]
    exact (hb.subtree_of_isInline hw found_guest (inline.mpr rfl)).symm
  | @noBody host owner found no_body =>
    have empty : b.held? host .body = none := hw.held?_eq_none found no_body
    rw [under, empty]
    rfl
  | emptyBody found _ empty =>
    rw [under, held?_of_get? found, Links.held, empty]
    rfl
  | body found _ held _ ih =>
    rw [ih, under, under, held?_of_get? found, Links.held, held]

/-! ## The main statement -/

/-- **Chains and programs end** on a board that can come up. From any name on, known or not,
there is one chain without a limit, and it is what is listed with one: it starts with the
name, lists nothing twice, goes from successor to successor, and stops only where there is
none. It is no longer than there are blocks, and an unknown name is alone in it. From any
block on there is one program without a limit, and it is what is written with one. It enters
the blocks of the subtree, in order, and thereby every block of the board once at most. -/
theorem Reachable.walks_end (h : Reachable b) :
    (∀ start, ∃ ids, (∀ ids', b.Proceeds (some start) ids' ↔ ids' = ids) ∧
      b.chain (some start) = .ok ids ∧ ids.head? = some start ∧ ids.Nodup ∧
      ids.IsChain (fun id follower => b.held? id .next = some follower) ∧
      (∀ last, ids.getLast? = some last → b.held? last .next = none) ∧
      (start < b.size → ids.length ≤ b.size) ∧ (b.size ≤ start → ids = [start])) ∧
    ∀ start, start < b.size → ∃ ts, (∀ ts', b.Emits (.chain (some start)) ts' ↔ ts' = ts) ∧
      b.tokens (some start) = .ok ts ∧ ts.filterMap Token.entered? = b.subtree start ∧
      (ts.filterMap Token.entered?).Nodup ∧ ∀ id ∈ ts.filterMap Token.entered?, id < b.size := by
  have hb := h.forest
  have hw := h.wellHeld
  constructor
  · intro start
    obtain ⟨ids, listed, within⟩ := hb.exists_chain start
    have chain := Proceeds.of_chainWithin listed
    refine ⟨ids, fun ids' => ⟨fun other => other.unique chain, fun same => same ▸ chain⟩, listed,
      chain.head?_eq, chain.nodup hb, chain.isChain, fun last => chain.held?_getLast, ?_, ?_⟩
    · intro lt
      have among : ids ⊆ b.ids := fun id mem => mem_ids.mpr (within lt id mem)
      have length := ((chain.nodup hb).subperm among).length_le
      rwa [Board.ids, List.length_range] at length
    · intro missing
      exact Except.ok.inj (listed.symm.trans (chain_of_size_le missing))
  · intro start lt
    obtain ⟨ts, listed, -⟩ := exists_tokens hb hw lt
    have written : b.Emits (.chain (some start)) ts := emits_of_emit.1 listed
    have entered : ts.filterMap Token.entered? = b.subtree start := written.entered_eq hb hw
    refine ⟨ts, fun ts' => ⟨fun other => other.unique written, fun same => same ▸ written⟩,
      listed, entered, ?_, fun id mem => ?_⟩
    · rw [entered]
      exact hb.nodup_subtree start
    · rw [entered] at mem
      exact (hb.of_mem_visit mem).1

/-- From the outer one of two conditionals on the chain goes to the class, and the program
enters all six blocks, once each; an unknown name is a chain of its own. -/
theorem walks_end_nested : ∃ s report, nested.settle standardRange = .ok (s, report) ∧
    (∀ ids, s.Proceeds (some 0) ids ↔ ids = [0, 5]) ∧
    (∀ ids, s.Proceeds (some 6) ids ↔ ids = [6]) ∧
    ∃ ts, (∀ ts', s.Emits (.chain (some 0)) ts' ↔ ts' = ts) ∧
      ts.filterMap Token.entered? = [0, 1, 2, 3, 4, 5] := by
  have run : (nested.settle standardRange).toOption.any (fun settled =>
      decide (settled.1.size = 6 ∧ (settled.1.chain (some 0)).toOption = some [0, 5] ∧
        settled.1.subtree 0 = [0, 1, 2, 3, 4, 5])) = true := by
    decide +kernel
  obtain ⟨⟨s, report⟩, settled, facts⟩ := exists_ok_of_any run
  obtain ⟨size, chain, below⟩ := of_decide_eq_true facts
  dsimp only at size chain below
  obtain ⟨chains, programs⟩ := Reachable.walks_end (.settle reachable_nested settled)
  obtain ⟨ids, only, listed, -⟩ := chains 0
  obtain ⟨ids', only', -, -, -, -, -, -, alone⟩ := chains 6
  obtain ⟨ts, written, -, entered, -⟩ := programs 0 (size ▸ by decide)
  cases listed.symm.trans (eq_ok_of_toOption chain)
  cases alone (by rw [size])
  exact ⟨s, report, settled, only, only', ts, written, entered.trans below⟩

end Board

end SnapBlocks
