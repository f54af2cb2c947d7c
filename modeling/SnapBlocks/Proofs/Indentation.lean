import SnapBlocks.Proofs.Termination

/-!
# The lines of a program are well nested

Indentation is kept on the page as a number, which goes up before a body and down after it.
What line follows another is a different matter: after the last line of a body comes whatever
follows the nest, or the nest around it, or one further out. Still the first line of a nest
is always followed by a deeper line, and no other line is (`Reachable.lines_well_nested`).

`Page.rows` reads off the tokens of a program which lines are begun, for which blocks, and at
which levels. That these are the lines of the blocks of the subtree, at their depths, goes by
the stretches of the program (`Emits.lays`), each of which ends at the level at which it began.
The lines of a subtree are then arranged by a grammar, `Board.Nested`, in which lines stand
behind one another at a level, with deeper ones behind the first line of a nest. What may follow
what is read off the grammar (`Nested.isChain`).
-/

namespace SnapBlocks

/-- **A line of a program.** -/
structure Row where
  /-- The block whose line it is; there is none if the line stands in place of a body. -/
  block? : Option BlockId
  /-- The level at which the line begins. -/
  level : Nat
deriving DecidableEq, Repr

namespace Page

variable {page : Page} {token : Token} {tokens more : List Token}

/-- **The lines that tokens begin** on the page. A line is that of the block that has been
entered right before it, if one has. -/
def rows (page : Page) (entered : Option BlockId) : List Token → List Row
  | [] => []
  | token :: tokens =>
    let later := (page.add token).rows token.entered? tokens
    if token = .line then ⟨entered, page.level⟩ :: later else later

/-- **The tokens leave no level that has not been entered**: none of them goes up from level
zero. -/
def Bears (page : Page) (tokens : List Token) : Prop :=
  ∀ before after, tokens = before ++ .dedent :: after → 0 < (page.print before).level

theorem bears_nil (page : Page) : page.Bears [] := fun before after split => by
  cases before <;> cases split

theorem bears_cons_iff : page.Bears (token :: tokens) ↔
    (token = .dedent → 0 < page.level) ∧ (page.add token).Bears tokens := by
  constructor
  · intro bears
    refine ⟨?_, fun before after split => bears (token :: before) after (by rw [split]; rfl)⟩
    rintro rfl
    exact bears [] tokens rfl
  · rintro ⟨first, rest⟩ before after split
    cases before with
    | nil => exact first (List.cons.inj split).1
    | cons other before =>
      obtain ⟨rfl, split'⟩ := List.cons.inj split
      exact rest before after split'

theorem bears_append_iff :
    page.Bears (tokens ++ more) ↔ page.Bears tokens ∧ (page.print tokens).Bears more := by
  induction tokens generalizing page with
  | nil => exact ⟨fun bears => ⟨page.bears_nil, bears⟩, And.right⟩
  | cons token tokens ih =>
    rw [List.cons_append, bears_cons_iff, bears_cons_iff, ih, print_cons, and_assoc]

end Page

/-! ## What tokens lay out -/

/-- **The tokens lay out rows at a level.** They end at the level at which they began, leave
no level that they have not entered, and begin these lines, whatever comes after them. -/
structure Lays (tokens : List Token) (level : Nat) (rows : List Row) : Prop where
  level_print : ∀ {page : Page}, page.level = level → (page.print tokens).level = level
  bears : ∀ {page : Page}, page.level = level → page.Bears tokens
  rows_append : ∀ {page : Page} more, page.level = level →
    page.rows none (tokens ++ more) = rows ++ (page.print tokens).rows none more

namespace Lays

variable {tokens more : List Token} {level : Nat} {rows others : List Row}

theorem nil (level : Nat) : Lays [] level [] :=
  ⟨fun at_level => at_level, fun _ => Page.bears_nil _, fun _ _ => rfl⟩

theorem append (h : Lays tokens level rows) (h' : Lays more level others) :
    Lays (tokens ++ more) level (rows ++ others) where
  level_print at_level := by
    rw [Page.print_append]
    exact h'.level_print (h.level_print at_level)
  bears at_level := Page.bears_append_iff.mpr ⟨h.bears at_level, h'.bears (h.level_print at_level)⟩
  rows_append rest at_level := by
    rw [List.append_assoc, h.rows_append _ at_level, h'.rows_append _ (h.level_print at_level),
      List.append_assoc, Page.print_append]

/-- A piece of text begins no line. -/
theorem text (piece : String) (level : Nat) : Lays [.text piece] level [] :=
  ⟨fun at_level => at_level, fun _ => Page.bears_cons_iff.mpr ⟨nofun, Page.bears_nil _⟩,
    fun _ _ => rfl⟩

/-- A block that is written as text begins no line. -/
theorem inline (id : BlockId) (code : String) (level : Nat) :
    Lays [.enter id, .text code] level [] :=
  ⟨fun at_level => at_level, fun _ => Page.bears_cons_iff.mpr ⟨nofun, Page.bears_cons_iff.mpr
    ⟨nofun, Page.bears_nil _⟩⟩, fun _ _ => rfl⟩

/-- The line of a block. -/
theorem line (id : BlockId) (level : Nat) : Lays [.enter id, .line] level [⟨some id, level⟩] :=
  ⟨fun at_level => at_level, fun _ => Page.bears_cons_iff.mpr ⟨nofun, Page.bears_cons_iff.mpr
    ⟨nofun, Page.bears_nil _⟩⟩, fun _ at_level => by rw [← at_level]; rfl⟩

/-- The line in place of a body. -/
theorem emptyBody (level : Nat) : Lays emptyBody level [⟨none, level⟩] :=
  ⟨fun at_level => at_level, fun _ => Page.bears_cons_iff.mpr ⟨nofun, Page.bears_cons_iff.mpr
    ⟨nofun, Page.bears_nil _⟩⟩, fun _ at_level => by rw [← at_level]; rfl⟩

/-- Rows are laid out one level deeper between an indentation and its end. -/
theorem indented (h : Lays tokens (level + 1) rows) :
    Lays (.indent :: tokens ++ [.dedent]) level rows := by
  have deeper : ∀ {page : Page}, page.level = level → (page.add .indent).level = level + 1 :=
    fun at_level => congrArg (· + 1) at_level
  refine ⟨fun {page} at_level => ?_, fun {page} at_level => ?_, fun {page} rest at_level => ?_⟩
  · rw [Page.print_append, Page.print_cons]
    show ((page.add .indent).print tokens).level - 1 = level
    rw [h.level_print (deeper at_level), Nat.add_sub_cancel]
  · refine Page.bears_append_iff.mpr ⟨Page.bears_cons_iff.mpr ⟨nofun, h.bears (deeper at_level)⟩, ?_⟩
    refine Page.bears_cons_iff.mpr ⟨fun _ => ?_, Page.bears_nil _⟩
    rw [Page.print_cons, h.level_print (deeper at_level)]
    exact Nat.succ_pos level
  · rw [List.append_assoc, List.cons_append]
    show (page.add .indent).rows none (tokens ++ ([.dedent] ++ rest)) = _
    rw [h.rows_append _ (deeper at_level), Page.print_append]
    rfl

/-- **A statement begins one line, and then those of its body one level deeper.** -/
theorem statement {kind : Kind} (not_inline : kind.isInline = false) (id : BlockId)
    (code : String) {argument body : List Token} (ha : Lays argument level [])
    (hb : Lays body (level + 1) rows) :
    Lays (.enter id :: kind.statement code argument body) level
      (⟨some id, level⟩ :: if kind.hasBody then rows else []) := by
  have opening := (line id level).append (text code level)
  cases kind with
  | expression => cases not_inline
  | apply => exact ((opening.append (text "(" level)).append ha).append (text ")\n" level)
  | assign => exact ((opening.append (text " = " level)).append ha).append (text "\n" level)
  | call => exact opening.append (text "()\n" level)
  | nest form =>
    have plain := (((opening.append (text " " level)).append ha).append (text ":\n" level)).append
      hb.indented
    have opening := ((line id level).append (text "def " level)).append (text code level)
    have definition := (((opening.append (text "(" level)).append ha).append
      (text "):\n" level)).append hb.indented
    cases form with
    | definition => simpa [Kind.statement, Kind.hasBody] using definition
    | conditional => simpa [Kind.statement, Kind.hasBody] using plain
    | classBody => simpa [Kind.statement, Kind.hasBody] using plain

/-- What is laid out at level zero is what is begun on an empty page. -/
theorem rows_empty (h : Lays tokens 0 rows) : Page.empty.rows none tokens = rows := by
  have at_level : Page.empty.level = 0 := rfl
  have all := h.rows_append [] at_level
  rwa [List.append_nil, Page.rows, List.append_nil] at all

end Lays

namespace Board

variable {b : Board} {id start : BlockId} {block : Block} {base level : Nat} {ts : List Token}
  {rows : List Row}

/-! ## The lines of blocks -/

/-- Whether a line stands in place of the body of a block: the block is a nest, and empty. -/
def lacksBody (b : Board) (id : BlockId) : Bool :=
  (b.get? id).any fun block => block.kind.hasBody && block.links.body.isNone

/-- **The lines of a block**, at its depth counted from `base`: its own, and deeper by one the
line in place of its body. -/
def rowsOf (b : Board) (base : Nat) (id : BlockId) : List Row :=
  ⟨some id, b.level id - base⟩ :: if b.lacksBody id then [⟨none, b.level id - base + 1⟩] else []

/-- The lines of all statements among some blocks, in their order. -/
def rowsAmong (b : Board) (base : Nat) (ids : List BlockId) : List Row :=
  (ids.filter b.isStatement).flatMap (b.rowsOf base)

/-- The lines of the blocks under a slot. -/
def rowsUnder (b : Board) (base : Nat) (held : Option BlockId) : List Row :=
  b.rowsAmong base (held.elim [] b.subtree)

/-- The lines of the body of a block, or the line in its place. -/
def bodyRows (b : Board) (base : Nat) (host : BlockId) : List Row :=
  (if b.lacksBody host then [⟨none, b.level host - base + 1⟩] else []) ++
    b.rowsUnder base (b.held? host .body)

theorem lacksBody_of_get? (found : b.get? id = some block) :
    b.lacksBody id = (block.kind.hasBody && block.links.body.isNone) := by
  rw [lacksBody, found, Option.any_some]

theorem rowsAmong_append (b : Board) (base : Nat) (ids more : List BlockId) :
    b.rowsAmong base (ids ++ more) = b.rowsAmong base ids ++ b.rowsAmong base more := by
  simp [rowsAmong]

theorem rowsAmong_cons (statement : b.isStatement id = true) (ids : List BlockId) :
    b.rowsAmong base (id :: ids) = b.rowsOf base id ++ b.rowsAmong base ids := by
  simp [rowsAmong, statement]

theorem rowsAmong_cons_inline (inline : b.isStatement id = false) (ids : List BlockId) :
    b.rowsAmong base (id :: ids) = b.rowsAmong base ids := by
  simp [rowsAmong, inline]

theorem isStatement_of_get? (found : b.get? id = some block) :
    b.isStatement id = !block.kind.isInline := by
  rw [isStatement, found, Option.any_some]

section Lines

variable (hb : b.Forest) (hw : b.WellHeld)

include hb hw in
/-- An expression has no lines, and nothing under it that could have any. -/
theorem rowsUnder_inline (found : b.get? id = some block)
    (is_inline : block.kind.isInline = true) : b.rowsUnder base (some id) = [] := by
  show b.rowsAmong base (b.subtree id) = []
  rw [hb.subtree_of_isInline hw found is_inline, rowsAmong_cons_inline]
  · rfl
  · rw [isStatement_of_get? found, is_inline]
    rfl

include hb hw in
/-- **The lines under a statement**: its own, then those of its body, then what follows. -/
theorem rowsUnder_statement (found : b.get? id = some block)
    (not_inline : block.kind.isInline = false) : b.rowsUnder base (some id) =
      ⟨some id, b.level id - base⟩ ::
        (b.bodyRows base id ++ b.rowsUnder base block.links.next) := by
  have no_lines : b.rowsUnder base block.links.argument = [] := by
    cases argument : block.links.argument with
    | none => rfl
    | some guest =>
      have link := (held?_of_get? found .argument).trans argument
      obtain ⟨-, other, -, found_guest, -, inline⟩ := hw.exists_of_held? link
      exact rowsUnder_inline hb hw found_guest (inline.mpr rfl)
  have is_statement : b.isStatement id = true := by
    rw [isStatement_of_get? found, not_inline]
    rfl
  show b.rowsAmong base (b.subtree id) = _
  rw [hb.inProgramOrder_subtree id block found, rowsAmong_cons is_statement, rowsAmong_append,
    rowsAmong_append, bodyRows, held?_of_get? found, List.append_assoc]
  show _ ++ (b.rowsUnder base _ ++ (b.rowsUnder base _ ++ b.rowsUnder base _)) = _
  rw [no_lines, List.nil_append]
  rfl

/-! ## The lines of a stretch -/

/-- **The lines that a stretch of a program begins**, at the depths of their blocks counted
from `base`. -/
def rowsIn (b : Board) (base : Nat) : Stretch → List Row
  | .chain start => b.rowsUnder base start
  | .block id =>
    if b.isStatement id then ⟨some id, b.level id - base⟩ :: b.bodyRows base id else []
  | .argument _ => []
  | .body host => b.bodyRows base host

/-- **The stretch is written at a level**: that of its blocks, counted from `base`. -/
def StandsAt (b : Board) (base level : Nat) : Stretch → Prop
  | .chain start => ∀ id, start = some id → b.level id = base + level
  | .block id | .argument id => b.level id = base + level
  | .body host => ∃ outer, level = outer + 1 ∧ b.level host = base + outer

include hb hw in
/-- The lines under a block: those of the block alone, and then those of what follows it. -/
theorem rowsUnder_eq (found : b.get? id = some block) : b.rowsUnder base (some id) =
    b.rowsIn base (.block id) ++ b.rowsUnder base (b.held? id .next) := by
  rw [rowsIn, isStatement_of_get? found, held?_of_get? found]
  cases is_inline : block.kind.isInline with
  | true =>
    have no_next := hw.held_eq_none found (Kind.owns_eq_false is_inline .next)
    rw [rowsUnder_inline hb hw found is_inline, no_next]
    rfl
  | false =>
    rw [rowsUnder_statement hb hw found is_inline]
    rfl

include hw in
/-- There are no lines in the body of a block that is no nest. -/
theorem bodyRows_eq_nil (found : b.get? id = some block) (no_body : block.kind.hasBody = false) :
    b.bodyRows base id = [] := by
  have nothing : b.held? id .body = none := hw.held?_eq_none found no_body
  rw [bodyRows, lacksBody_of_get? found, no_body, nothing]
  rfl

include hb hw in
/-- **Every stretch of a program lays out its lines.** -/
theorem Emits.lays {stretch : Stretch} (h : b.Emits stretch ts)
    (at_level : b.StandsAt base level stretch) : Lays ts level (b.rowsIn base stretch) := by
  induction h generalizing level with
  | ended => exact .nil level
  | @next id first rest written _ ih_first ih_rest =>
    obtain ⟨block, found⟩ : ∃ block, b.get? id = some block := by
      cases written with
      | block found => exact ⟨_, found⟩
    have own_level : b.level id = base + level := at_level id rfl
    have both := (ih_first own_level).append <| ih_rest fun follower next => by
      rw [hb.level_of_held? next, if_neg nofun, own_level]
    show Lays _ level (b.rowsUnder base (some id))
    rw [rowsUnder_eq hb hw found]
    exact both
  | @block id block argument body found _ _ ih_argument ih_body =>
    rw [rowsIn, isStatement_of_get? found]
    cases is_inline : block.kind.isInline with
    | true =>
      rw [Kind.isInline_iff.mp is_inline]
      exact .inline id block.code level
    | false =>
      have own_level : b.level id - base = level := by
        rw [show b.level id = base + level from at_level, Nat.add_sub_cancel_left]
      have lines := Lays.statement is_inline id block.code (ih_argument at_level)
        (ih_body ⟨level, rfl, at_level⟩)
      suffices same : ⟨some id, b.level id - base⟩ :: b.bodyRows base id = _ from same ▸ lines
      rw [own_level]
      cases has : block.kind.hasBody with
      | true => rfl
      | false => rw [bodyRows_eq_nil hw found has, if_neg Bool.false_ne_true]
  | noArgument => exact .nil level
  | placeholder => exact .text _ level
  | @argument host guest owner ts found _ held _ ih =>
    have link : b.held? host .argument = some guest := (held?_of_get? found _).trans held
    obtain ⟨-, block, -, found_guest, -, inline⟩ := hw.exists_of_held? link
    have guest_level : b.StandsAt base level (.block guest) := by
      show b.level guest = base + level
      rw [hb.level_of_held? link, if_neg nofun]
      exact at_level
    have lines := ih guest_level
    rw [rowsIn, isStatement_of_get? found_guest, inline.mpr rfl] at lines
    exact lines
  | noBody found no_body =>
    rw [rowsIn, bodyRows_eq_nil hw found no_body]
    exact .nil level
  | @emptyBody host owner found has empty =>
    obtain ⟨outer, rfl, host_level⟩ := at_level
    have nothing : b.held? host .body = none := (held?_of_get? found _).trans empty
    rw [rowsIn, bodyRows, lacksBody_of_get? found, has, empty, nothing, host_level,
      Nat.add_sub_cancel_left]
    exact .emptyBody (outer + 1)
  | @body host first owner ts found has held _ ih =>
    obtain ⟨outer, rfl, host_level⟩ := at_level
    have link : b.held? host .body = some first := (held?_of_get? found _).trans held
    have first_level : b.StandsAt base (outer + 1) (.chain (some first)) := fun id same => by
      cases same
      rw [hb.level_of_held? link, if_pos rfl, host_level, Nat.add_assoc]
    have lines := ih first_level
    rw [rowsIn, bodyRows, lacksBody_of_get? found, held, link, Option.isNone_some, Bool.and_false]
    exact lines

end Lines

/-! ## The grammar of lines -/

/-- Whether the line is the first one of a nest. -/
def opens (b : Board) (row : Row) : Bool :=
  (row.block?.bind b.get?).any (·.kind.hasBody)

/-- **Lines that are nested, from a level on.** Each of them begins at the level, and behind
the first line of a nest are others, nested from the next level on. -/
inductive Nested (b : Board) : Nat → List Row → Prop
  /-- No lines. -/
  | nil {level : Nat} : Nested b level []
  /-- A line that opens nothing. -/
  | plain {level : Nat} {owner : Option BlockId} {rest : List Row} :
      b.opens ⟨owner, level⟩ = false → Nested b level rest → Nested b level (⟨owner, level⟩ :: rest)
  /-- The first line of a nest, and the lines of its body. -/
  | nest {level : Nat} {owner : Option BlockId} {body rest : List Row} :
      b.opens ⟨owner, level⟩ = true → body ≠ [] → Nested b (level + 1) body →
      Nested b level rest → Nested b level (⟨owner, level⟩ :: (body ++ rest))

/-- **What may follow a line.** Behind the first line of a nest it is a line one level deeper,
behind any other line one that is no deeper. -/
def MayFollow (b : Board) (row next : Row) : Prop :=
  if b.opens row then next.level = row.level + 1 else next.level ≤ row.level

namespace Nested

variable {row : Row}

/-- Nested lines begin at the level or deeper. -/
theorem le (h : b.Nested level rows) (mem : row ∈ rows) : level ≤ row.level := by
  induction h with
  | nil => cases mem
  | plain _ _ ih =>
    rcases List.mem_cons.mp mem with rfl | mem
    · exact le_rfl
    · exact ih mem
  | nest _ _ _ _ ih_body ih_rest =>
    rcases List.mem_cons.mp mem with rfl | mem
    · exact le_rfl
    rcases List.mem_append.mp mem with mem | mem
    · exact Nat.le_of_succ_le (ih_body mem)
    · exact ih_rest mem

/-- The first of nested lines begins at the level. -/
theorem level_head? (h : b.Nested level rows) (first : rows.head? = some row) :
    row.level = level := by
  cases h with
  | nil => cases first
  | plain => cases first; rfl
  | nest => cases first; rfl

/-- The last of nested lines opens nothing. -/
theorem opens_getLast? (h : b.Nested level rows) (last : rows.getLast? = some row) :
    b.opens row = false := by
  induction h with
  | nil => cases last
  | @plain level owner rest opens_not _ ih =>
    cases rest with
    | nil => cases last; exact opens_not
    | cons next rest => exact ih ((List.getLast?_cons_cons).symm.trans last)
  | @nest level owner body rest _ some_body _ _ ih_body ih_rest =>
    obtain ⟨next, body, rfl⟩ := List.exists_cons_of_ne_nil some_body
    rw [List.cons_append, List.getLast?_cons_cons, ← List.cons_append, List.getLast?_append] at last
    rcases Option.or_eq_some_iff.mp last with last | ⟨-, last⟩
    · exact ih_rest last
    · exact ih_body last

/-- **Each of nested lines may follow the one before it.** -/
theorem isChain (h : b.Nested level rows) : rows.IsChain b.MayFollow := by
  induction h with
  | nil => exact .nil
  | plain opens_not rest ih =>
    refine List.isChain_cons.mpr ⟨fun next first => ?_, ih⟩
    rw [MayFollow, opens_not, if_neg Bool.false_ne_true, rest.level_head? first]
  | @nest level owner lines rest opens some_body body after ih_body ih_rest =>
    refine List.isChain_cons.mpr ⟨fun next first => ?_, ?_⟩
    · rw [MayFollow, opens, if_pos rfl]
      refine body.level_head? (Eq.trans ?_ first)
      rw [List.head?_append_of_ne_nil _ some_body]
    -- behind the body, at whatever depth it has ended, comes a line of the outer level
    · refine List.isChain_append.mpr ⟨ih_body, ih_rest, fun last ends next first => ?_⟩
      rw [MayFollow, body.opens_getLast? ends, if_neg Bool.false_ne_true, after.level_head? first]
      exact Nat.le_of_succ_le (body.le (List.mem_of_getLast? ends))

end Nested

section Lines

variable (hb : b.Forest) (hw : b.WellHeld)

theorem opens_some (found : b.get? id = some block) (level : Nat) :
    b.opens ⟨some id, level⟩ = block.kind.hasBody := by
  rw [opens, Option.bind_some, found, Option.any_some]

include hb hw in
/-- **There are lines in the body of a nest**: one in its place, or those under its first
block, which is a statement. -/
theorem bodyRows_cases (found : b.get? id = some block) (has : block.kind.hasBody = true) :
    b.bodyRows base id = [⟨none, b.level id - base + 1⟩] ∨
      ∃ first, block.links.body = some first ∧
        b.bodyRows base id = b.rowsUnder base (some first) ∧ b.bodyRows base id ≠ [] := by
  rw [bodyRows, lacksBody_of_get? found, has, held?_of_get? found, Links.held]
  cases body : block.links.body with
  | none => exact .inl rfl
  | some first =>
    have link := (held?_of_get? found .body).trans body
    obtain ⟨-, other, -, found_first, -, inline⟩ := hw.exists_of_held? link
    have statement : other.kind.isInline = false := by
      refine Bool.eq_false_iff.mpr fun is_inline => ?_
      cases inline.mp is_inline
    refine .inr ⟨first, rfl, rfl, ?_⟩
    show b.rowsUnder base (some first) ≠ []
    rw [rowsUnder_statement hb hw found_first statement]
    exact List.cons_ne_nil _ _

include hb hw in
/-- **The lines under a block are nested**, from its own depth on. -/
theorem nested_rowsUnder (lt : id < b.size) (at_level : b.level id = base + level) :
    b.Nested level (b.rowsUnder base (some id)) := by
  refine hb.induction_downward (P := fun id => ∀ level, b.level id = base + level →
    b.Nested level (b.rowsUnder base (some id))) ?_ lt level at_level
  intro id block found ih level at_level
  cases is_inline : block.kind.isInline with
  | true =>
    rw [rowsUnder_inline hb hw found is_inline]
    exact .nil
  | false =>
    have of_slot : ∀ slot guest, block.links.held slot = some guest →
        b.Nested (if slot = .body then level + 1 else level) (b.rowsUnder base (some guest)) := by
      intro slot guest held
      have link := (held?_of_get? found slot).trans held
      refine ih guest (hb.back_of_held link) _ ?_
      rw [hb.level_of_held? link, at_level]
      split <;> rfl
    have rest : b.Nested level (b.rowsUnder base block.links.next) := by
      cases next : block.links.next with
      | none => exact .nil
      | some follower => exact of_slot .next follower next
    rw [rowsUnder_statement hb hw found is_inline, at_level, Nat.add_sub_cancel_left]
    cases has : block.kind.hasBody with
    | false =>
      rw [bodyRows_eq_nil hw found has]
      exact .plain ((opens_some found level).trans has) rest
    | true =>
      have opens := (opens_some found level).trans has
      rcases bodyRows_cases hb hw found has with alone | ⟨first, body, lines, some_lines⟩
      · rw [alone, at_level, Nat.add_sub_cancel_left]
        exact .nest opens (List.cons_ne_nil _ _) (.plain rfl .nil) rest
      · refine .nest opens some_lines ?_ rest
        rw [lines]
        exact of_slot .body first body

end Lines

/-! ## The lines as text -/

/-- **The text of a line**, with its indentation. -/
def rowText (b : Board) (row : Row) : String :=
  indentation row.level ++ match row.block? with
    | none => "pass\n"
    | some id => ((b.get? id).map fun block =>
        block.kind.heading block.code (b.argumentText block) ++ "\n").getD ""

/-- The lines of a block are what an outline says of it. -/
theorem join_rowsOf (statement : b.isStatement id = true) :
    String.join ((b.rowsOf base id).map b.rowText) = b.linesOf base id := by
  obtain ⟨block, found, -⟩ := (Option.any_eq_true ..).mp statement
  rw [linesOf, found, rowsOf, lacksBody_of_get? found]
  show _ = b.lines (b.level id - base) block
  rw [lines]
  split <;> simp [rowText, found, String.append_assoc]

/-- **An outline is made of the lines of its blocks.** -/
theorem join_rowsAmong (b : Board) (base : Nat) (ids : List BlockId) :
    String.join ((b.rowsAmong base ids).map b.rowText) = b.passage base ids := by
  unfold rowsAmong passage
  have each : ∀ id ∈ ids.filter b.isStatement, b.isStatement id = true := fun id mem =>
    (List.mem_filter.mp mem).2
  generalize ids.filter b.isStatement = statements at each ⊢
  induction statements with
  | nil => rfl
  | cons id rest ih =>
    obtain ⟨first, each⟩ := List.forall_mem_cons.mp each
    rw [List.flatMap_cons, List.map_append, String.join_append, List.map_cons, String.join_cons,
      join_rowsOf first, ih each]

/-! ## The main statement -/

/-- **The lines that tokens begin on an empty page are well nested.** -/
structure WellNested (b : Board) (ts : List Token) : Prop where
  /-- There is a first line, and it begins at level zero. -/
  first : ∃ row rest, Page.empty.rows none ts = row :: rest ∧ row.level = 0
  /-- Right behind the first line of a nest there is a line one level deeper. -/
  nest : ∀ before row after, Page.empty.rows none ts = before ++ row :: after →
    b.opens row = true → ∃ next rest, after = next :: rest ∧ next.level = row.level + 1
  /-- Behind any other line there is one that is no deeper, or none. -/
  other : ∀ before row next after, Page.empty.rows none ts = before ++ row :: next :: after →
    b.opens row = false → next.level ≤ row.level
  /-- Level zero is never left upward. -/
  bears : Page.empty.Bears ts

/-- Tokens that lay out nested lines, and some lines, are well nested. -/
theorem Nested.wellNested (h : b.Nested 0 rows) (some_rows : rows ≠ []) (lays : Lays ts 0 rows) :
    b.WellNested ts := by
  refine ⟨?_, fun before row after split opens => ?_, fun before row next after split opens => ?_,
    lays.bears rfl⟩
  · obtain ⟨row, rest, rfl⟩ := List.exists_cons_of_ne_nil some_rows
    exact ⟨row, rest, lays.rows_empty, h.level_head? rfl⟩
  · obtain rfl := lays.rows_empty.symm.trans split
    have chain := (List.isChain_append.mp h.isChain).2.1
    cases after with
    | nil =>
      have last := h.opens_getLast? List.getLast?_concat
      rw [opens] at last
      cases last
    | cons next rest =>
      refine ⟨next, rest, rfl, ?_⟩
      have follows := (List.isChain_cons.mp chain).1 next rfl
      rwa [MayFollow, opens, if_pos rfl] at follows
  · obtain rfl := lays.rows_empty.symm.trans split
    have chain := (List.isChain_append.mp h.isChain).2.1
    have follows := (List.isChain_cons.mp chain).1 next rfl
    rwa [MayFollow, opens, if_neg Bool.false_ne_true] at follows

/-- **The lines of a program are well nested**, on a board that can come up and from any block
on that is no expression. There is a program, and it begins the lines of the statements of the
subtree, in order and each at its depth, with one more line for each nest that is empty; the
text is that of these lines, and the indentation ends where it began. The first line begins at
level zero; behind the first line of a nest comes a line one level deeper, and behind any other
one that is no deeper, or none; and the level never goes below zero. -/
theorem Reachable.lines_well_nested (h : Reachable b) (found : b.get? start = some block)
    (not_inline : block.kind.isInline = false) :
    ∃ ts, b.tokens (some start) = .ok ts ∧ b.WellNested ts ∧
      Page.empty.rows none ts
        = ((b.subtree start).filter b.isStatement).flatMap (b.rowsOf (b.level start)) ∧
      b.listing [some start]
        = .ok ⟨String.join ((Page.empty.rows none ts).map b.rowText), 0⟩ := by
  have hb := h.forest
  have hw := h.wellHeld
  have lt := lt_of_get? found
  obtain ⟨ts, listed, -⟩ := exists_tokens hb hw lt
  have at_level : b.StandsAt (b.level start) 0 (.chain (some start)) :=
    fun id same => Option.some.inj same ▸ rfl
  have lays := (emits_of_emit.1 listed).lays hb hw at_level
  have nested : b.Nested 0 (b.rowsUnder (b.level start) (some start)) :=
    nested_rowsUnder hb hw lt rfl
  have some_rows : b.rowsUnder (b.level start) (some start) ≠ [] := by
    rw [rowsUnder_statement hb hw found not_inline]
    exact List.cons_ne_nil _ _
  have read : Page.empty.rows none ts = b.rowsUnder (b.level start) (some start) := lays.rows_empty
  refine ⟨ts, listed, nested.wellNested some_rows lays, read, ?_⟩
  rw [listing_singleton hb hw lt, script_eq found, not_inline, read]
  exact congrArg (fun text => Except.ok (Page.mk text 0)) (b.join_rowsAmong _ _).symm

/-- The six lines of the two conditionals and the class: after the innermost line the program
goes up level by level, and the class has a line in place of its body. -/
theorem lines_well_nested_nested : ∃ s report ts, nested.settle standardRange = .ok (s, report) ∧
    s.tokens (some 0) = .ok ts ∧ s.WellNested ts ∧ Page.empty.rows none ts =
      [⟨some 0, 0⟩, ⟨some 2, 1⟩, ⟨some 3, 2⟩, ⟨some 4, 1⟩, ⟨some 5, 0⟩, ⟨none, 1⟩] := by
  have run : (nested.settle standardRange).toOption.any (fun settled =>
      decide (settled.1.kind? 0 = some (.nest .conditional) ∧
        ((settled.1.subtree 0).filter settled.1.isStatement).flatMap
          (settled.1.rowsOf (settled.1.level 0)) =
            [⟨some 0, 0⟩, ⟨some 2, 1⟩, ⟨some 3, 2⟩, ⟨some 4, 1⟩, ⟨some 5, 0⟩, ⟨none, 1⟩])) =
              true := by
    decide +kernel
  obtain ⟨⟨s, report⟩, settled, facts⟩ := exists_ok_of_any run
  obtain ⟨kind, rows⟩ := of_decide_eq_true facts
  obtain ⟨block, found, kind⟩ := Option.map_eq_some_iff.mp kind
  obtain ⟨ts, listed, well_nested, read, -⟩ :=
    Reachable.lines_well_nested (.settle reachable_nested settled) found (by rw [kind]; rfl)
  exact ⟨s, report, ts, settled, listed, well_nested, read.trans rows⟩

end Board

end SnapBlocks
