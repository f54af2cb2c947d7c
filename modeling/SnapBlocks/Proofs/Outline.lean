import SnapBlocks.Program.Listing
import SnapBlocks.Proofs.Depth
import SnapBlocks.Proofs.Kinds
import SnapBlocks.Proofs.Preorder

/-!
# A program is the outline of its blocks

A program is written by following links: a block, its argument, its body, what comes
after it, with the level of indentation kept on the page. The same text can be read off
the board without writing anything. `Board.outline` takes the blocks of a subtree in
their order, leaves out the expressions, and gives to each of the others its own lines,
at the depth of the block.

That both agree is an induction on the links. What a piece of the program does to the
page is `Writes`: it adds a text, and ends at the level at which it began. The level is
always the depth of the block that is written, counted from the first one, since the body
slot is the only one that leads deeper, and the only one that is written between an
indentation and its end.
-/

namespace SnapBlocks

/-! ## What tokens write -/

/-- **The tokens write a piece of text** when they are printed at a level, and end at the
level at which they began. -/
def Writes (tokens : List Token) (level : Nat) (piece : String) : Prop :=
  ∀ text, Page.print ⟨text, level⟩ tokens = ⟨text ++ piece, level⟩

namespace Writes

variable {tokens more : List Token} {level : Nat} {piece other : String}

theorem nil (level : Nat) : Writes [] level "" := fun text => by
  rw [Page.print_nil, String.append_empty]

theorem append (h : Writes tokens level piece) (h' : Writes more level other) :
    Writes (tokens ++ more) level (piece ++ other) := fun text => by
  rw [Page.print_append, h, h', String.append_assoc]

theorem enter (id : BlockId) (h : Writes tokens level piece) :
    Writes (.enter id :: tokens) level piece := h

theorem text (piece : String) (level : Nat) : Writes [.text piece] level piece := fun _ => rfl

theorem emptyBody (level : Nat) :
    Writes emptyBody level (indentation level ++ "pass\n") := fun text => by
  show Page.mk (text ++ indentation level ++ "pass\n") level = _
  rw [String.append_assoc]

/-- Pieces that are each written at a level write their texts one after the other. -/
theorem flatten {α : Type} {f : α → String} {xs : List α} {pieces : List (List Token)}
    (each : List.Forall₂ (fun x tokens => Writes tokens level (f x)) xs pieces) :
    Writes pieces.flatten level (String.join (xs.map f)) := by
  induction each with
  | nil => exact .nil level
  | cons first _ ih =>
    rw [List.flatten_cons, List.map_cons, String.join_cons]
    exact first.append ih

end Writes

/-- **The first line of a statement**, without its indentation and its end. An expression
is no line of its own. -/
def Kind.heading (kind : Kind) (code argument : String) : String :=
  match kind with
  | .expression => code
  | .apply => code ++ "(" ++ argument ++ ")"
  | .assign => code ++ " = " ++ argument
  | .call => code ++ "()"
  | .nest .definition => "def " ++ code ++ "(" ++ argument ++ "):"
  | .nest .conditional | .nest .classBody => code ++ " " ++ argument ++ ":"

/-- **A statement writes its first line, and then its body one level deeper.** -/
theorem Writes.statement {kind : Kind} (not_inline : kind.isInline = false) (code : String)
    {level : Nat} {argument body : List Token} {arg rest : String}
    (ha : Writes argument level arg) (hb : Writes body (level + 1) rest) :
    Writes (kind.statement code argument body) level
      (indentation level ++ kind.heading code arg ++ "\n" ++
        if kind.hasBody then rest else "") := by
  have colon : (":\n" : String) = ":" ++ "\n" := rfl
  have paren_colon : ("):\n" : String) = "):" ++ "\n" := rfl
  intro text
  cases kind with
  | expression => cases not_inline
  | apply =>
    simp [Kind.statement, Kind.heading, Kind.hasBody, Page.add, ha _, String.append_assoc]
  | assign =>
    simp [Kind.statement, Kind.heading, Kind.hasBody, Page.add, ha _, String.append_assoc]
  | call => simp [Kind.statement, Kind.heading, Kind.hasBody, Page.add, String.append_assoc]
  | nest form =>
    cases form <;>
      simp only [Kind.statement, Kind.heading, Kind.hasBody, Page.add, ha _, hb _, colon,
        paren_colon, Page.print_append, Page.print_cons, Page.print_nil, String.append_assoc,
        Nat.add_sub_cancel, if_true]

namespace Board

variable {b : Board} {id : BlockId} {block : Block} {base fuel : Nat}

/-! ## The outline -/

/-- The text in the argument of a block: the code of what is attached there, and else the
placeholder of the kind. -/
def argumentText (b : Board) (block : Block) : String :=
  match block.links.argument with
  | none => block.kind.placeholder
  | some argument => ((b.get? argument).map (·.code)).getD ""

/-- The lines of a block at a level. A nest without a body has a line in its place. -/
def lines (b : Board) (level : Nat) (block : Block) : String :=
  indentation level ++ block.kind.heading block.code (b.argumentText block) ++ "\n" ++
    if block.kind.hasBody && block.links.body.isNone then indentation (level + 1) ++ "pass\n"
    else ""

/-- The lines of the block of a name, at its depth counted from `base`. -/
def linesOf (b : Board) (base : Nat) (id : BlockId) : String :=
  ((b.get? id).map (b.lines (b.level id - base))).getD ""

/-- Whether there is a block of this name that stands for lines of its own. -/
def isStatement (b : Board) (id : BlockId) : Bool := (b.get? id).any (!·.kind.isInline)

/-- The lines of all statements among some blocks, in their order. -/
def passage (b : Board) (base : Nat) (ids : List BlockId) : String :=
  String.join ((ids.filter b.isStatement).map (b.linesOf base))

/-- **The outline of a block**: the lines of the statements of its subtree, in the order of
the subtree, indented by how much deeper they lie than the block. -/
def outline (b : Board) (start : BlockId) : String :=
  b.passage (b.level start) (b.subtree start)

@[simp] theorem passage_nil (b : Board) (base : Nat) : b.passage base [] = "" := rfl

@[simp] theorem passage_append (b : Board) (base : Nat) (ids more : List BlockId) :
    b.passage base (ids ++ more) = b.passage base ids ++ b.passage base more := by
  simp [passage]

theorem passage_cons_inline (found : b.get? id = some block) (is_inline : block.kind.isInline = true)
    (ids : List BlockId) : b.passage base (id :: ids) = b.passage base ids := by
  simp [passage, isStatement, found, is_inline]

theorem passage_cons (found : b.get? id = some block) (not_inline : block.kind.isInline = false)
    (ids : List BlockId) : b.passage base (id :: ids)
      = b.lines (b.level id - base) block ++ b.passage base ids := by
  simp [passage, isStatement, linesOf, found, not_inline]

/-- What the blocks under a slot add to an outline. -/
def branch (b : Board) (base : Nat) (held : Option BlockId) : String :=
  b.passage base (held.toList.flatMap b.subtree)

@[simp] theorem branch_none (b : Board) (base : Nat) : b.branch base none = "" := rfl

theorem branch_some (b : Board) (base : Nat) (id : BlockId) :
    b.branch base (some id) = b.passage base (b.subtree id) := by
  rw [branch, Option.toList_some, List.flatMap_singleton]

section Emit

variable (hb : b.Forest) (hw : b.WellHeld)

include hb hw in
/-- An expression has nothing below it, so it adds nothing to an outline. -/
theorem passage_subtree_inline (found : b.get? id = some block)
    (is_inline : block.kind.isInline = true) : b.passage base (b.subtree id) = "" := by
  rw [hb.subtree_of_isInline hw found is_inline]
  exact passage_cons_inline found is_inline []

include hb hw in
/-- **The outline of a statement**: its own lines, and then its body and what comes after. -/
theorem passage_subtree (found : b.get? id = some block)
    (not_inline : block.kind.isInline = false) : b.passage base (b.subtree id)
      = b.lines (b.level id - base) block ++
        (b.branch base block.links.body ++ b.branch base block.links.next) := by
  have no_lines : b.branch base block.links.argument = "" := by
    cases argument : block.links.argument with
    | none => rfl
    | some guest =>
      have link := (held?_of_get? found .argument).trans argument
      obtain ⟨-, other, -, found_guest, -, inline⟩ := hw.exists_of_held? link
      rw [branch_some]
      exact passage_subtree_inline hb hw found_guest (inline.mpr rfl)
  rw [hb.subtree_eq found, passage_cons found not_inline, Links.below, List.flatMap_append,
    List.flatMap_append, passage_append, passage_append]
  show _ ++ (b.branch base block.links.argument ++ (b.branch base _ ++ b.branch base _)) = _
  rw [no_lines, String.empty_append]

/-! ## Writing the blocks -/

/-- The tokens of the argument of a block. -/
def argumentTokens (b : Board) (fuel : Nat) (block : Block) : Except Fault (List Token) :=
  if !block.kind.takesArgument then pure []
  else if block.links.argument.isNone then pure [.text block.kind.placeholder]
  else b.emit fuel false block.links.argument

/-- The tokens of the body of a block. -/
def bodyTokens (b : Board) (fuel : Nat) (block : Block) : Except Fault (List Token) :=
  if !block.kind.hasBody then pure []
  else if block.links.body.isNone then pure emptyBody
  else b.emit fuel true block.links.body

theorem emit_none (b : Board) (fuel : Nat) (follow : Bool) : b.emit fuel follow none = .ok [] := by
  cases fuel <;> rfl

theorem emit_succ (b : Board) (fuel : Nat) (follow : Bool) (id : BlockId) :
    b.emit (fuel + 1) follow (some id) = b.fetch id >>= fun block =>
      b.argumentTokens fuel block >>= fun argument => b.bodyTokens fuel block >>= fun body =>
        (if follow then b.emit fuel true block.links.next else pure []) >>= fun rest =>
          pure (Token.enter id :: block.kind.statement block.code argument body ++ rest) := by
  rw [emit]
  simp only [ite_bind]
  rfl

/-- **The tokens of a block** are put together from those of its argument, of its body and
of what comes after. -/
theorem emit_of_parts (found : b.get? id = some block) {follow : Bool}
    {argument body rest : List Token} (argument_ok : b.argumentTokens fuel block = .ok argument)
    (body_ok : b.bodyTokens fuel block = .ok body)
    (rest_ok : (if follow then b.emit fuel true block.links.next else pure []) = .ok rest) :
    b.emit (fuel + 1) follow (some id)
      = .ok (Token.enter id :: block.kind.statement block.code argument body ++ rest) := by
  rw [emit_succ, fetch_eq_ok_iff.mpr found]
  show b.argumentTokens fuel block >>= _ = _
  rw [argument_ok]
  show b.bodyTokens fuel block >>= _ = _
  rw [body_ok]
  show (if follow then b.emit fuel true block.links.next else pure []) >>= _ = _
  rw [rest_ok]
  rfl

include hw in
/-- An expression is written as its code alone. -/
theorem emit_inline (found : b.get? id = some block) (is_inline : block.kind.isInline = true)
    (fuel : Nat) (follow : Bool) :
    b.emit (fuel + 1) follow (some id) = .ok [.enter id, .text block.code] := by
  have kind := Kind.isInline_iff.mp is_inline
  have no_next : block.links.next = none :=
    hw.held_eq_none found (Kind.owns_eq_false is_inline .next)
  have no_rest : (if follow then b.emit fuel true block.links.next else pure []) = .ok [] := by
    rw [no_next, emit_none]
    cases follow <;> rfl
  rw [emit_of_parts found (by rw [argumentTokens, kind]; rfl) (by rw [bodyTokens, kind]; rfl)
    no_rest, kind]
  rfl

include hb hw in
/-- The argument of a statement writes its text, at any level. -/
theorem exists_argumentTokens (found : b.get? id = some block)
    (enough : b.size ≤ fuel + 1 + (b.ancestors id).length) :
    ∃ ts, b.argumentTokens fuel block = .ok ts ∧
      ∀ level, Writes ts level (b.argumentText block) := by
  unfold argumentTokens argumentText
  cases argument : block.links.argument with
  | none =>
    cases takes : block.kind.takesArgument with
    | true => exact ⟨_, rfl, .text _⟩
    | false =>
      have no_placeholder : block.kind.placeholder = "" := by
        cases kind : block.kind <;> simp_all [Kind.takesArgument, Kind.placeholder]
      exact ⟨[], rfl, fun level => no_placeholder ▸ .nil level⟩
  | some guest =>
    have link := (held?_of_get? found .argument).trans argument
    obtain ⟨owner, other, found', found_guest, takes, inline⟩ := hw.exists_of_held? link
    obtain rfl : block = owner := Option.some.inj (found.symm.trans found')
    -- one more block is written inside of this one, so there is fuel for it
    have climbed := hb.length_ancestors_of_back? (hb.back_of_held link)
    have fewer := hb.length_ancestors_lt (lt_of_get? found_guest)
    obtain ⟨fuel, rfl⟩ : ∃ n, fuel = n + 1 := ⟨fuel - 1, by omega⟩
    refine ⟨[.enter guest, .text other.code], ?_, fun level => ?_⟩
    · rw [show block.kind.takesArgument = true from takes]
      exact emit_inline hw found_guest (inline.mpr rfl) fuel false
    · show Writes _ level (((b.get? guest).map (·.code)).getD "")
      rw [found_guest]
      exact .enter guest (.text other.code level)

include hw in
/-- The body of a block writes what is under it, and a line in its place if it is empty. -/
theorem exists_bodyTokens (found : b.get? id = some block) {level : Nat}
    (slot_writes : ∃ ts, b.emit fuel true block.links.body = .ok ts ∧
      Writes ts level (b.branch base block.links.body)) :
    ∃ ts, b.bodyTokens fuel block = .ok ts ∧
      Writes ts level ((if block.kind.hasBody && block.links.body.isNone
        then indentation level ++ "pass\n" else "") ++ b.branch base block.links.body) := by
  unfold bodyTokens
  cases body : block.links.body with
  | none =>
    rw [branch_none, String.append_empty]
    cases block.kind.hasBody with
    | false => exact ⟨[], rfl, .nil level⟩
    | true => exact ⟨emptyBody, rfl, .emptyBody level⟩
  | some first =>
    have link := (held?_of_get? found .body).trans body
    obtain ⟨owner, -, found', -, hasBody, -⟩ := hw.exists_of_held? link
    obtain rfl : block = owner := Option.some.inj (found.symm.trans found')
    obtain ⟨ts, emitted, writes⟩ := slot_writes
    rw [body] at emitted writes
    rw [show block.kind.hasBody = true from hasBody]
    refine ⟨ts, emitted, ?_⟩
    show Writes ts level ("" ++ b.branch base (some first))
    rw [String.empty_append]
    exact writes

include hb hw in
/-- **A chain of statements writes the outline of its first block**, at the depth of that
block counted from any `base` above it. -/
theorem exists_emit_statement (found : b.get? id = some block)
    (not_inline : block.kind.isInline = false) (enough : b.size ≤ fuel + (b.ancestors id).length)
    (le : base ≤ b.level id) : ∃ ts, b.emit fuel true (some id) = .ok ts ∧
      Writes ts (b.level id - base) (b.passage base (b.subtree id)) := by
  induction fuel generalizing id block with
  | zero =>
    have := hb.length_ancestors_lt (lt_of_get? found)
    omega
  | succ fuel ih =>
    -- the two slots for statements are written with one unit of fuel less
    have slot_writes : ∀ slot, slot ≠ .argument → ∃ ts,
        b.emit fuel true (block.links.held slot) = .ok ts ∧
          Writes ts ((if slot = .body then b.level id + 1 else b.level id) - base)
            (b.branch base (block.links.held slot)) := by
      intro slot no_argument
      cases held : block.links.held slot with
      | none => exact ⟨[], b.emit_none fuel true, .nil _⟩
      | some guest =>
        have link := (held?_of_get? found slot).trans held
        obtain ⟨-, other, -, found_guest, -, inline⟩ := hw.exists_of_held? link
        have climbed := hb.length_ancestors_of_back? (hb.back_of_held link)
        have plain : other.kind.isInline = false :=
          Bool.eq_false_iff.mpr fun is_inline => no_argument (inline.mp is_inline)
        rw [branch_some, ← hb.level_of_held? link]
        refine ih found_guest plain (by omega) ?_
        rw [hb.level_of_held? link]
        split <;> omega
    obtain ⟨argument, argument_ok, argument_writes⟩ := exists_argumentTokens hb hw found enough
    obtain ⟨body, body_ok, body_writes⟩ := exists_bodyTokens hw found (slot_writes .body nofun)
    obtain ⟨rest, rest_ok, rest_writes⟩ := slot_writes .next nofun
    refine ⟨_, emit_of_parts found argument_ok body_ok rest_ok, .enter id ?_⟩
    have deeper : b.level id + 1 - base = b.level id - base + 1 := by omega
    rw [if_pos rfl, deeper] at body_writes
    have writes := (Writes.statement not_inline block.code (argument_writes _) body_writes).append
      rest_writes
    suffices same : b.passage base (b.subtree id) = _ from same ▸ writes
    rw [passage_subtree hb hw found not_inline, lines]
    cases hasBody : block.kind.hasBody with
    | true => simp only [Bool.true_and, if_true, String.append_assoc]; rfl
    | false =>
      have no_body : block.links.body = none :=
        hw.held_eq_none found (show block.kind.owns .body = _ from hasBody)
      rw [no_body]
      simp only [Bool.false_and, branch_none, Bool.false_eq_true, if_false, String.append_assoc]
      rfl

/-! ## Listings -/

/-- What is written from a block on: the code of an expression, and the outline of
anything else. -/
def script (b : Board) (start : BlockId) : String :=
  if b.isStatement start then b.outline start else ((b.get? start).map (·.code)).getD ""

theorem script_eq (found : b.get? id = some block) :
    b.script id = if block.kind.isInline then block.code else b.outline id := by
  unfold script isStatement
  rw [found]
  cases is_inline : block.kind.isInline <;> simp [is_inline]

include hb hw in
theorem exists_tokens (lt : id < b.size) :
    ∃ ts, b.tokens (some id) = .ok ts ∧ Writes ts 0 (b.script id) := by
  obtain ⟨block, found⟩ := exists_get? lt
  rw [script_eq found, tokens]
  cases is_inline : block.kind.isInline with
  | true =>
    exact ⟨_, emit_inline hw found is_inline b.size true, .enter id (.text block.code 0)⟩
  | false =>
    obtain ⟨ts, emitted, writes⟩ := exists_emit_statement hb hw found is_inline
      (show b.size ≤ b.size + 1 + _ by omega) (le_refl (b.level id))
    rw [Nat.sub_self] at writes
    exact ⟨ts, emitted, writes⟩

include hb hw in
/-- **Chains that are written one after the other** give their texts one after the other,
and end where the indentation began. -/
theorem listing_eq (starts : List BlockId) (within : ∀ start ∈ starts, start < b.size) :
    b.listing (starts.map some) = .ok ⟨String.join (starts.map b.script), 0⟩ := by
  obtain ⟨pieces, listed, writes⟩ : ∃ pieces, (starts.map some).mapM b.tokens = .ok pieces ∧
      List.Forall₂ (fun start ts => Writes ts 0 ((start.map b.script).getD ""))
        (starts.map some) pieces := by
    refine exists_mapM_eq_ok fun start mem => ?_
    obtain ⟨id, id_mem, rfl⟩ := List.mem_map.mp mem
    exact exists_tokens hb hw (within id id_mem)
  have all_written := Writes.flatten writes ""
  rw [List.map_map] at all_written
  rw [listing, listed]
  exact congrArg Except.ok (all_written.trans (by rw [String.empty_append]; rfl))

include hb hw in
theorem listing_singleton (lt : id < b.size) :
    b.listing [some id] = .ok ⟨b.script id, 0⟩ := by
  have listed := listing_eq hb hw [id] fun start mem => List.mem_singleton.mp mem ▸ lt
  rwa [List.map_singleton, List.map_singleton, String.join_cons, String.join_nil,
    String.append_empty] at listed

end Emit

/-- **A listing is the outline of what is listed.** On a board that can come up the depth
of every block can be counted, and nothing lies less deep than a block above it. Written
from one of its blocks on, a program is the code of the block if it is an expression, and
otherwise its outline. Written from several blocks on, one after the other, it is one such
text after the other. After each of them the indentation is back where it began. -/
theorem Reachable.listing_eq_outlines (h : Reachable b) :
    (∀ id, b.depth id = .ok (b.level id)) ∧
    (∀ start, ∀ id ∈ b.subtree start, b.level start ≤ b.level id) ∧
    (∀ start block, b.get? start = some block → b.listing [some start]
      = .ok ⟨if block.kind.isInline then block.code else b.outline start, 0⟩) ∧
    ∀ starts, (∀ start ∈ starts, start < b.size) → ∃ texts,
      List.Forall₂ (fun start text => b.listing [some start] = .ok ⟨text, 0⟩) starts texts ∧
        ∀ n, b.listing ((starts.take n).map some) = .ok ⟨String.join (texts.take n), 0⟩ := by
  have hb := h.forest
  have hw := h.wellHeld
  refine ⟨hb.depth_eq_level, fun start id => hb.level_le_of_mem_subtree,
    fun start block found => ?_, fun starts within => ?_⟩
  · rw [listing_singleton hb hw (lt_of_get? found), script_eq found]
  · refine ⟨starts.map b.script, ?_, fun n => ?_⟩
    · rw [List.forall₂_map_right_iff]
      exact List.forall₂_same.mpr fun start mem => listing_singleton hb hw (within start mem)
    · rw [← List.map_take]
      exact listing_eq hb hw _ fun start mem => within start (List.mem_of_mem_take mem)

/-- A conditional in the body of another, with a call before and after its end, and a class
without a body below both. -/
def nested : Board :=
  (((((empty.push ((Block.place (.nest .conditional) .origin).recode "if")).push
    ((Block.place .expression ⟨100, 5⟩).recode "ready")).push
      ((Block.place (.nest .conditional) ⟨15, 50⟩).recode "if")).push
        ((Block.place .call ⟨35, 100⟩).recode "deep")).push
          ((Block.place .call ⟨15, 165⟩).recode "middle")).push
            ((Block.place (.nest .classBody) ⟨0, 115⟩).recode "class")

theorem reachable_nested : nested.Reachable :=
  .push (.nest .classBody) ⟨0, 115⟩ "class" (.push .call ⟨15, 165⟩ "middle"
    (.push .call ⟨35, 100⟩ "deep" (.push (.nest .conditional) ⟨15, 50⟩ "if"
      (.push .expression ⟨100, 5⟩ "ready" (.push (.nest .conditional) .origin "if" .empty)))))

/-- The two conditionals, written from the outer one on and from the inner one on. -/
theorem listing_eq_outlines_nested : ∃ s report,
    nested.settle standardRange = .ok (s, report) ∧
    s.listing [some 0] = .ok
      ⟨"if ready:\n    if True:\n        deep()\n    middle()\nclass Foo:\n    pass\n", 0⟩ ∧
    s.listing [some 2] = .ok ⟨"if True:\n    deep()\nmiddle()\n", 0⟩ := by
  have run : (nested.settle standardRange).toOption.any (fun settled =>
      decide (settled.1.outline 0
          = "if ready:\n    if True:\n        deep()\n    middle()\nclass Foo:\n    pass\n" ∧
        settled.1.outline 2 = "if True:\n    deep()\nmiddle()\n" ∧
        settled.1.kind? 0 = some (.nest .conditional) ∧
        settled.1.kind? 2 = some (.nest .conditional))) = true := by
    decide +kernel
  obtain ⟨⟨s, report⟩, settled, facts⟩ := exists_ok_of_any run
  obtain ⟨outer, inner, outer_kind, inner_kind⟩ := of_decide_eq_true facts
  obtain ⟨-, -, alone, -⟩ := Reachable.listing_eq_outlines (.settle reachable_nested settled)
  obtain ⟨block, found, kind⟩ := Option.map_eq_some_iff.mp outer_kind
  obtain ⟨block', found', kind'⟩ := Option.map_eq_some_iff.mp inner_kind
  have from_outer := alone 0 block found
  have from_inner := alone 2 block' found'
  rw [kind, outer] at from_outer
  rw [kind', inner] at from_inner
  exact ⟨s, report, settled, from_outer, from_inner⟩

end Board

end SnapBlocks
