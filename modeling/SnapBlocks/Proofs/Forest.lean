import Mathlib.Data.Finset.Card
import Mathlib.Logic.Relation
import SnapBlocks.Board.Walk

/-!
# The links of a board form a forest

The links of a board say the same thing twice: a slot names the block that it
holds, and a held block names its holder. Nothing in the data keeps the two in
step, and nothing keeps a block from lying under itself. `Board.Forest` is the
property that settling establishes and every other operation leaves alone: the
names are those of blocks on the board, both readings agree, no block lies in two
slots, and the way upward from a block ends at a head in fewer steps than there
are blocks.

Upward links are followed by `Board.ancestors` with a limit on the number of
steps. On a forest the limit is never reached, so the list is complete and its
members are the blocks **above** the one it starts from, `Board.Above` being the
transitive closure of one block holding another. What a guest would have to avoid
to close a circle is thus exactly what `Board.isAbove` finds.

All of it depends on the links alone: two boards with the same `Board.links?` are
forests together.
-/

namespace SnapBlocks.Board

variable {b c : Board} {id host guest : BlockId} {slot : Slot}

/-! ## Reading the links -/

/-- The links of a block, if there is such a block. -/
def links? (b : Board) (id : BlockId) : Option Links := (b.get? id).map (·.links)

/-- **The two boards have the same links**, whatever else differs. -/
def SameLinks (b c : Board) : Prop := ∀ id, b.links? id = c.links? id

theorem back?_eq_links? (b : Board) (id : BlockId) : b.back? id = (b.links? id).bind (·.back) := by
  rw [links?, Option.bind_map]
  rfl

theorem held?_eq_links? (b : Board) (id : BlockId) (slot : Slot) :
    b.held? id slot = (b.links? id).bind (·.held slot) := by
  rw [links?, Option.bind_map]
  rfl

/-- What is read off the board about a block is what the block records. -/
theorem held?_of_get? {block : Block} (found : b.get? id = some block) (slot : Slot) :
    b.held? id slot = block.links.held slot := by
  rw [held?, found, Option.bind_some]

theorem back?_of_get? {block : Block} (found : b.get? id = some block) :
    b.back? id = block.links.back := by
  rw [back?, found, Option.bind_some]

theorem links?_isSome_iff : (b.links? id).isSome ↔ id < b.size := by
  rw [links?, Option.isSome_map, get?_isSome_iff]

theorem lt_of_get? {block : Block} (found : b.get? id = some block) : id < b.size := by
  rw [← get?_isSome_iff, found, Option.isSome_some]

theorem exists_get? (lt : id < b.size) : ∃ block, b.get? id = some block :=
  Option.isSome_iff_exists.mp (get?_isSome_iff.mpr lt)

theorem exists_links? (lt : id < b.size) : ∃ links, b.links? id = some links :=
  Option.isSome_iff_exists.mp (links?_isSome_iff.mpr lt)

/-- Only a block on the board has a holder. -/
theorem lt_of_back? (h : b.back? guest = some host) : guest < b.size := by
  obtain ⟨block, found, -⟩ := Option.bind_eq_some_iff.mp h
  exact lt_of_get? found

/-- Only a block on the board holds others. -/
theorem lt_of_held? (h : b.held? host slot = some guest) : host < b.size := by
  obtain ⟨block, found, -⟩ := Option.bind_eq_some_iff.mp h
  exact lt_of_get? found

/-! ## What lies above what -/

/-- One block holds another in one of its slots, as the held one records it. -/
def Holds (b : Board) (host guest : BlockId) : Prop := b.back? guest = some host

/-- **One block lies above another**: it holds it, or holds what lies above it. -/
def Above (b : Board) : BlockId → BlockId → Prop := Relation.TransGen b.Holds

/-- Where a number of links upward lead from a block, if there are so many. -/
def lift (b : Board) : Nat → BlockId → Option BlockId
  | 0, id => some id
  | steps + 1, id => (b.back? id).bind (b.lift steps)

theorem lift_add (b : Board) (m n : Nat) (id : BlockId) :
    b.lift (m + n) id = (b.lift m id).bind (b.lift n) := by
  induction m generalizing id with
  | zero => rw [Nat.zero_add]; rfl
  | succ m ih =>
    rw [Nat.succ_add, lift, lift, Option.bind_assoc]
    exact congrArg _ (funext ih)

/-- What is above a block is its holder or above its holder. -/
theorem above_iff {top : BlockId} :
    b.Above top id ↔ ∃ host, b.back? id = some host ∧ (host = top ∨ b.Above top host) := by
  unfold Above
  rw [Relation.TransGen.tail'_iff]
  constructor
  · rintro ⟨host, reach, holds⟩
    exact ⟨host, holds, Relation.reflTransGen_iff_eq_or_transGen.mp reach⟩
  · rintro ⟨host, holds, reach⟩
    exact ⟨host, Relation.reflTransGen_iff_eq_or_transGen.mpr reach, holds⟩

/-- Nothing is above a head. -/
theorem not_above_of_back? {top : BlockId} (h : b.back? id = none) : ¬ b.Above top id := by
  rw [above_iff]
  rintro ⟨host, holds, -⟩
  rw [h] at holds
  cases holds

theorem above_of_lift {top : BlockId} {steps : Nat} (h : b.lift (steps + 1) id = some top) :
    b.Above top id := by
  induction steps generalizing id with
  | zero =>
    obtain ⟨host, holds, same⟩ := Option.bind_eq_some_iff.mp h
    cases same
    exact .single holds
  | succ steps ih =>
    obtain ⟨host, holds, rest⟩ := Option.bind_eq_some_iff.mp h
    exact (ih rest).tail holds

namespace SameLinks

theorem refl (b : Board) : b.SameLinks b := fun _ => rfl

theorem symm (h : b.SameLinks c) : c.SameLinks b := fun id => (h id).symm

theorem trans {d : Board} (h : b.SameLinks c) (h' : c.SameLinks d) : b.SameLinks d :=
  fun id => (h id).trans (h' id)

theorem back? (h : b.SameLinks c) (id : BlockId) : b.back? id = c.back? id := by
  rw [back?_eq_links?, back?_eq_links?, h id]

theorem held? (h : b.SameLinks c) (id : BlockId) (slot : Slot) :
    b.held? id slot = c.held? id slot := by
  rw [held?_eq_links?, held?_eq_links?, h id]

/-- On boards with the same links the same blocks lie above each other. -/
theorem above (h : b.SameLinks c) : b.Above = c.Above := by
  have holds : b.Holds = c.Holds :=
    funext fun host => funext fun guest => by rw [Holds, Holds, h.back?]
  rw [Above, Above, holds]

/-- Boards with the same links have equally many blocks. -/
theorem size_eq (h : b.SameLinks c) : b.size = c.size :=
  eq_of_forall_lt_iff fun id => by rw [← links?_isSome_iff, ← links?_isSome_iff, h id]

end SameLinks

/-- Links are the same if the same is read off them. -/
theorem sameLinks_of_reads (size_eq : b.size = c.size) (back : ∀ id, b.back? id = c.back? id)
    (held : ∀ id slot, b.held? id slot = c.held? id slot) : b.SameLinks c := by
  intro id
  cases found : b.links? id with
  | none =>
    have missing : ¬ (c.links? id).isSome := by
      rw [links?_isSome_iff, ← size_eq, ← links?_isSome_iff, found]
      exact Bool.false_ne_true
    rw [Option.not_isSome_iff_eq_none.mp missing]
  | some links =>
    obtain ⟨links', found'⟩ : ∃ links, c.links? id = some links := by
      refine exists_links? ?_
      rw [← size_eq, ← links?_isSome_iff, found, Option.isSome_some]
    have back_eq := back id
    have held_eq := held id
    simp only [back?_eq_links?, held?_eq_links?, found, found', Option.bind_some] at back_eq held_eq
    have next := held_eq .next
    have argument := held_eq .argument
    have body := held_eq .body
    cases links
    cases links'
    cases back_eq
    cases next
    cases argument
    cases body
    exact found'.symm

/-! ## Forests -/

/-- **The links of the board are those of a forest.** -/
structure Forest (b : Board) : Prop where
  /-- A slot holds a block of the board. -/
  held_lt : ∀ {host slot guest}, b.held? host slot = some guest → guest < b.size
  /-- A holder is a block of the board. -/
  back_lt : ∀ {host guest}, b.back? guest = some host → host < b.size
  /-- What lies in a slot of a block records that block as its holder. -/
  back_of_held : ∀ {host slot guest}, b.held? host slot = some guest → b.back? guest = some host
  /-- A block lies in exactly one slot of its recorded holder. -/
  slot_unique : ∀ {host guest}, b.back? guest = some host → ∃! slot, b.held? host slot = some guest
  /-- The way upward from a block ends at a head in fewer steps than there are blocks. -/
  rooted : ∀ {id}, id < b.size →
    ∃ steps < b.size, ∃ root, b.lift steps id = some root ∧ b.back? root = none

/-- Nothing lies above itself once the way upward from it ends. -/
theorem not_above_self_of_lift {steps : Nat} {root : BlockId} (reach : b.lift steps id = some root)
    (ends : b.back? root = none) : ¬ b.Above id id := by
  induction steps generalizing id with
  | zero =>
    cases reach
    exact not_above_of_back? ends
  | succ steps ih =>
    obtain ⟨host, holds, rest⟩ := Option.bind_eq_some_iff.mp reach
    intro loop
    obtain ⟨host', holds', up⟩ := above_iff.mp loop
    obtain rfl : host = host' := Option.some.inj (holds.symm.trans holds')
    -- the circle through the block passes its holder too
    refine ih rest ?_
    rcases up with rfl | up
    · exact loop
    · exact .head holds up

/-- **Where nothing lies above itself, the way upward ends** in fewer steps than
there are blocks: so many steps would visit some block twice. -/
theorem rooted_of_irreflexive (back_lt : ∀ {host guest}, b.back? guest = some host → host < b.size)
    (acyclic : ∀ id, ¬ b.Above id id) (lt : id < b.size) :
    ∃ steps < b.size, ∃ root, b.lift steps id = some root ∧ b.back? root = none := by
  by_contra never
  have reach : ∀ steps, steps ≤ b.size → ∃ top, b.lift steps id = some top ∧ top < b.size := by
    intro steps
    induction steps with
    | zero => exact fun _ => ⟨id, rfl, lt⟩
    | succ steps ih =>
      intro le
      obtain ⟨top, lifts, -⟩ := ih (Nat.le_of_succ_le le)
      cases holds : b.back? top with
      | none => exact absurd ⟨steps, le, top, lifts, holds⟩ never
      | some host =>
        refine ⟨host, ?_, back_lt holds⟩
        rw [lift_add, lifts, Option.bind_some, lift, holds]
        rfl
  -- one step more than there are blocks: two of the blocks passed are the same
  have maps : ∀ steps ∈ Finset.range (b.size + 1),
      (b.lift steps id).getD 0 ∈ Finset.range b.size := by
    intro steps mem
    obtain ⟨top, lifts, top_lt⟩ := reach steps (Nat.le_of_lt_succ (Finset.mem_range.mp mem))
    rw [lifts, Option.getD_some, Finset.mem_range]
    exact top_lt
  obtain ⟨m, hm, n, hn, ne, same⟩ := Finset.exists_ne_map_eq_of_card_lt_of_maps_to
    (by rw [Finset.card_range, Finset.card_range]; exact Nat.lt_succ_self _) maps
  wlog lt_mn : m < n generalizing m n
  · exact this n hn m hm ne.symm same.symm (by omega)
  obtain ⟨x, lifts_m, -⟩ := reach m (Nat.le_of_lt_succ (Finset.mem_range.mp hm))
  obtain ⟨y, lifts_n, -⟩ := reach n (Nat.le_of_lt_succ (Finset.mem_range.mp hn))
  rw [lifts_m, lifts_n, Option.getD_some, Option.getD_some] at same
  subst same
  obtain ⟨k, rfl⟩ := Nat.exists_eq_add_of_lt lt_mn
  rw [Nat.add_assoc, lift_add, lifts_m, Option.bind_some] at lifts_n
  exact acyclic x (above_of_lift lifts_n)

namespace Forest

/-- On a forest nothing lies above itself. -/
theorem acyclic (hb : b.Forest) (id : BlockId) : ¬ b.Above id id := by
  intro loop
  obtain ⟨host, holds, -⟩ := above_iff.mp loop
  obtain ⟨steps, -, root, reach, ends⟩ := hb.rooted (lt_of_back? holds)
  exact not_above_self_of_lift reach ends loop

/-- A block lies in one slot at most, anywhere on the board. -/
theorem held_inj (hb : b.Forest) {host' : BlockId} {slot' : Slot}
    (h : b.held? host slot = some guest) (h' : b.held? host' slot' = some guest) :
    host = host' ∧ slot = slot' := by
  obtain rfl : host = host' :=
    Option.some.inj ((hb.back_of_held h).symm.trans (hb.back_of_held h'))
  exact ⟨rfl, (hb.slot_unique (hb.back_of_held h)).unique h h'⟩

/-- **Being a forest is a matter of what is read off the links**, on a board that may
also have got more blocks. -/
theorem of_reads (hb : b.Forest) (size_le : b.size ≤ c.size)
    (back : ∀ id, c.back? id = b.back? id) (held : ∀ id slot, c.held? id slot = b.held? id slot) :
    c.Forest := by
  have holds_eq : c.Holds = b.Holds :=
    funext fun host => funext fun guest => by rw [Holds, Holds, back]
  constructor
  · intro host slot guest h
    rw [held] at h
    exact Nat.lt_of_lt_of_le (hb.held_lt h) size_le
  · intro host guest h
    rw [back] at h
    exact Nat.lt_of_lt_of_le (hb.back_lt h) size_le
  · intro host slot guest h
    rw [held] at h
    rw [back]
    exact hb.back_of_held h
  · intro host guest h
    rw [back] at h
    simpa only [held] using hb.slot_unique h
  · intro id lt
    refine rooted_of_irreflexive ?_ ?_ lt
    · intro host guest h
      rw [back] at h
      exact Nat.lt_of_lt_of_le (hb.back_lt h) size_le
    · intro id
      rw [Above, holds_eq]
      exact hb.acyclic id

theorem congr (hb : b.Forest) (same : b.SameLinks c) : c.Forest :=
  hb.of_reads same.size_eq.le (fun id => (same.back? id).symm)
    fun id slot => (same.held? id slot).symm

end Forest

/-! ## The list of ancestors

The walk upward is given one step more than there are blocks. On a forest it is
over before, so nothing is missing from the list. -/

/-- A walk upward that ends at a head lists exactly the blocks above its start,
however many steps it was given beyond those it needs. -/
theorem climb_of_lift {steps limit : Nat} {root : BlockId} (reach : b.lift steps id = some root)
    (ends : b.back? root = none) (le : steps ≤ limit) :
    (b.climb limit id).length = steps ∧ ∀ top, top ∈ b.climb limit id ↔ b.Above top id := by
  induction steps generalizing id limit with
  | zero =>
    cases reach
    have nothing : b.climb limit root = [] := by
      cases limit with
      | zero => rfl
      | succ limit => rw [climb, ends]
    rw [nothing]
    exact ⟨rfl, fun top => ⟨fun mem => absurd mem List.not_mem_nil,
      fun above => absurd above (not_above_of_back? ends)⟩⟩
  | succ steps ih =>
    obtain ⟨host, holds, rest⟩ := Option.bind_eq_some_iff.mp reach
    obtain ⟨limit, rfl⟩ : ∃ n, limit = n + 1 := ⟨limit - 1, by omega⟩
    obtain ⟨length, mem⟩ := ih rest (Nat.le_of_succ_le_succ le)
    have first : b.climb (limit + 1) id = host :: b.climb limit host := by rw [climb, holds]
    rw [first]
    refine ⟨by rw [List.length_cons, length], fun top => ?_⟩
    rw [List.mem_cons, mem, show b.Above top id ↔ _ from above_iff]
    constructor
    · rintro (rfl | above)
      · exact ⟨_, holds, .inl rfl⟩
      · exact ⟨host, holds, .inr above⟩
    · rintro ⟨host', holds', up⟩
      obtain rfl : host = host' := Option.some.inj (holds.symm.trans holds')
      exact up.imp_left Eq.symm

namespace Forest

/-- **The ancestors of a block are the blocks above it.** -/
theorem mem_ancestors (hb : b.Forest) {top : BlockId} : top ∈ b.ancestors id ↔ b.Above top id := by
  by_cases lt : id < b.size
  · obtain ⟨steps, steps_lt, root, reach, ends⟩ := hb.rooted lt
    exact (climb_of_lift reach ends (by omega)).2 top
  · have free : b.back? id = none := by
      by_contra held
      obtain ⟨host, holds⟩ := Option.ne_none_iff_exists'.mp held
      exact lt (lt_of_back? holds)
    rw [ancestors_eq_nil free]
    exact ⟨fun mem => absurd mem List.not_mem_nil,
      fun above => absurd above (not_above_of_back? free)⟩

/-- The test for an ancestor finds exactly the blocks above. -/
theorem isAbove_iff (hb : b.Forest) {top : BlockId} : b.isAbove top id = true ↔ b.Above top id := by
  rw [isAbove, List.contains_iff_mem, hb.mem_ancestors]

/-- A block has fewer ancestors than there are blocks. -/
theorem length_ancestors_lt (hb : b.Forest) (lt : id < b.size) :
    (b.ancestors id).length < b.size := by
  obtain ⟨steps, steps_lt, root, reach, ends⟩ := hb.rooted lt
  have length := (climb_of_lift reach ends (show steps ≤ b.size + 1 by omega)).1
  rw [ancestors, length]
  exact steps_lt

/-- A held block has one ancestor more than its holder. -/
theorem length_ancestors_of_back? (hb : b.Forest) (h : b.back? guest = some host) :
    (b.ancestors guest).length = (b.ancestors host).length + 1 := by
  obtain ⟨steps, steps_lt, root, reach, ends⟩ := hb.rooted (hb.back_lt h)
  have reach' : b.lift (steps + 1) guest = some root := by
    rw [lift, h]
    exact reach
  have of_host := (climb_of_lift reach ends (show steps ≤ b.size + 1 by omega)).1
  have of_guest := (climb_of_lift reach' ends (show steps + 1 ≤ b.size + 1 by omega)).1
  rw [ancestors, ancestors, of_host, of_guest]

end Forest

/-! ## How a forest grows

A fresh block is attached to nothing. Putting a head into an empty slot adds one
link, which closes no circle unless the head lies above the slot. -/

/-- No block of the board is attached to another. -/
def Unlinked (b : Board) : Prop := ∀ id links, b.links? id = some links → links = .none

namespace Unlinked

theorem back? (h : b.Unlinked) (id : BlockId) : b.back? id = none := by
  rw [back?_eq_links?]
  cases found : b.links? id with
  | none => rfl
  | some links =>
    rw [h id links found]
    rfl

theorem held? (h : b.Unlinked) (id : BlockId) (slot : Slot) : b.held? id slot = none := by
  rw [held?_eq_links?]
  cases found : b.links? id with
  | none => rfl
  | some links =>
    rw [h id links found, Option.bind_some, Links.held_none]

/-- A board without links is a forest. -/
theorem forest (h : b.Unlinked) : b.Forest where
  held_lt := fun held => absurd held (by rw [h.held?]; exact nofun)
  back_lt := fun back => absurd back (by rw [h.back?]; exact nofun)
  back_of_held := fun held => absurd held (by rw [h.held?]; exact nofun)
  slot_unique := fun back => absurd back (by rw [h.back?]; exact nofun)
  rooted := fun lt => ⟨0, Nat.zero_lt_of_lt lt, _, rfl, h.back? _⟩

end Unlinked

theorem unlinked_empty : empty.Unlinked := fun _ _ found => absurd found nofun

theorem unlinked_unlink (b : Board) : b.unlink.Unlinked := by
  intro id links found
  rw [links?, unlink, get?_map, Option.map_map] at found
  obtain ⟨block, -, rfl⟩ := Option.map_eq_some_iff.mp found
  rfl

theorem links?_push (b : Board) (block : Block) (id : BlockId) :
    (b.push block).links? id = if id = b.size then some block.links else b.links? id := by
  rw [links?, get?_push]
  split
  · rfl
  · rfl

/-- **A board stays a forest when a block that is attached to nothing is added.** -/
theorem Forest.push (hb : b.Forest) {block : Block} (free : block.links = .none) :
    (b.push block).Forest := by
  have missing : b.links? b.size = none := by
    rw [← Option.not_isSome_iff_eq_none, links?_isSome_iff]
    exact lt_irrefl _
  refine hb.of_reads (by rw [size_push]; exact Nat.le_succ _) ?_ ?_
  · intro id
    rw [back?_eq_links?, back?_eq_links?, links?_push]
    split
    · rename_i new
      rw [new, missing, free]
      rfl
    · rfl
  · intro id slot
    rw [held?_eq_links?, held?_eq_links?, links?_push]
    split
    · rename_i new
      rw [new, missing, free, Option.bind_some, Links.held_none]
      rfl
    · rfl

theorem links?_modify_withLinks (b : Board) (id other : BlockId) (f : Links → Links) :
    (b.modify id fun block => block.withLinks (f block.links)).links? other
      = if id = other then (b.links? other).map f else b.links? other := by
  rw [links?, get?_modify]
  split
  · rw [links?, Option.map_map, Option.map_map]
    rfl
  · rfl

theorem links?_link (b : Board) (host guest : BlockId) (slot : Slot) (id : BlockId) :
    (b.link host guest slot).links? id
      = if guest = id then (if host = id then (b.links? id).map (·.hold guest slot)
          else b.links? id).map (·.attachTo host)
        else if host = id then (b.links? id).map (·.hold guest slot) else b.links? id := by
  rw [link, links?_modify_withLinks _ guest id (·.attachTo host),
    links?_modify_withLinks _ host id (·.hold guest slot)]

section Link

variable (ne : host ≠ guest) (host_lt : host < b.size) (guest_lt : guest < b.size)

include ne guest_lt in
/-- The guest records its new holder, and no other record changes. -/
theorem back?_link (slot : Slot) (id : BlockId) :
    (b.link host guest slot).back? id = if id = guest then some host else b.back? id := by
  obtain ⟨links, found⟩ := exists_links? guest_lt
  rw [back?_eq_links?, back?_eq_links?, links?_link]
  by_cases at_guest : id = guest
  · subst at_guest
    rw [if_pos rfl, if_pos rfl, if_neg ne, found]
    rfl
  · rw [if_neg (Ne.symm at_guest), if_neg at_guest]
    split
    · rw [Option.bind_map]
      exact congrArg _ (funext fun links => Links.back_hold links guest slot)
    · rfl

include ne host_lt in
/-- The slot holds the guest, and no other slot changes. -/
theorem held?_link (slot : Slot) (id : BlockId) (other : Slot) :
    (b.link host guest slot).held? id other
      = if id = host ∧ other = slot then some guest else b.held? id other := by
  obtain ⟨links, found⟩ := exists_links? host_lt
  rw [held?_eq_links?, held?_eq_links?, links?_link]
  by_cases at_host : id = host
  · subst at_host
    rw [if_neg ne.symm, if_pos rfl, found]
    by_cases same : other = slot
    · subst same
      rw [if_pos ⟨rfl, rfl⟩]
      exact Links.held_hold_self links guest other
    · rw [if_neg fun both => same both.2]
      exact Links.held_hold_of_ne links guest same
  · rw [if_neg (Ne.symm at_host), if_neg (c := id = host ∧ other = slot) fun both => at_host both.1]
    split
    · rw [Option.bind_map]
      exact congrArg _ (funext fun links => Links.held_attachTo links host other)
    · rfl

include ne guest_lt in
/-- **A way upward on the board with one more link** goes on the old board, or passes
the new link: then it leads down from the guest and up to what is above the host. -/
theorem above_link {x y : BlockId} (up : (b.link host guest slot).Above x y) :
    b.Above x y ∨ Relation.ReflTransGen b.Holds x host ∧ Relation.ReflTransGen b.Holds guest y := by
  have step : ∀ {x y}, (b.link host guest slot).Holds x y →
      b.Holds x y ∨ x = host ∧ y = guest := by
    intro x y holds
    rw [Holds, back?_link ne guest_lt] at holds
    split at holds
    · rename_i at_guest
      cases holds
      exact .inr ⟨rfl, at_guest⟩
    · exact .inl holds
  induction up with
  | single holds =>
    rcases step holds with old | ⟨rfl, rfl⟩
    · exact .inl (.single old)
    · exact .inr ⟨.refl, .refl⟩
  | tail _ holds ih =>
    rcases step holds with old | ⟨rfl, rfl⟩
    · exact ih.imp (·.tail old) fun ⟨up, down⟩ => ⟨up, down.tail old⟩
    -- the walk arrives by the new link, and forgets how it came to the guest before
    · rcases ih with up | ⟨up, -⟩
      · exact .inr ⟨up.to_reflTransGen, .refl⟩
      · exact .inr ⟨up, .refl⟩

end Link

/-- **A board stays a forest when a head is put into an empty slot**, unless the slot
belongs to the head itself or to something under it. -/
theorem Forest.link (hb : b.Forest) (ne : host ≠ guest) (host_lt : host < b.size)
    (guest_lt : guest < b.size) (empty : b.held? host slot = none) (free : b.back? guest = none)
    (below : ¬ b.Above guest host) : (b.link host guest slot).Forest := by
  have back := back?_link ne guest_lt slot
  have held := held?_link ne host_lt slot
  -- a head lies in no slot, so the new link is the only one that names the guest
  have not_held : ∀ host' slot', b.held? host' slot' ≠ some guest := fun host' slot' h => by
    have := hb.back_of_held h
    rw [free] at this
    cases this
  have back_lt : ∀ {host' guest'}, (b.link host guest slot).back? guest' = some host' →
      host' < (b.link host guest slot).size := by
    intro host' guest' h
    rw [back] at h
    rw [size_link]
    split at h
    · cases h
      exact host_lt
    · exact hb.back_lt h
  constructor
  · intro host' slot' guest' h
    rw [held] at h
    rw [size_link]
    split at h
    · cases h
      exact guest_lt
    · exact hb.held_lt h
  · exact back_lt
  · intro host' slot' guest' h
    rw [held] at h
    rw [back]
    split at h
    · rename_i at_slot
      cases h
      rw [if_pos rfl, at_slot.1]
    · rw [if_neg]
      · exact hb.back_of_held h
      · rintro rfl
        exact not_held _ _ h
  · intro host' guest' h
    rw [back] at h
    simp only [held]
    split at h
    · rename_i at_guest
      subst at_guest
      cases h
      refine ⟨slot, if_pos ⟨rfl, rfl⟩, fun slot' h' => ?_⟩
      by_contra other
      exact not_held _ _ ((if_neg fun both => other both.2).symm.trans h')
    · rename_i at_guest
      obtain ⟨slot', h', unique⟩ := hb.slot_unique h
      have other : ¬ (host' = host ∧ slot' = slot) := by
        rintro ⟨rfl, rfl⟩
        rw [empty] at h'
        cases h'
      refine ⟨slot', (if_neg other).trans h', fun slot'' h'' => ?_⟩
      dsimp only at h''
      split at h''
      · cases h''
        exact absurd rfl at_guest
      · exact unique _ h''
  · intro id lt
    refine rooted_of_irreflexive back_lt (fun id loop => ?_) lt
    rcases above_link ne guest_lt loop with old | ⟨up, down⟩
    · exact hb.acyclic id old
    -- a circle through the new link would put the guest above its host before
    · rcases Relation.reflTransGen_iff_eq_or_transGen.mp (down.trans up) with same | above
      · exact ne same
      · exact below above

end SnapBlocks.Board
