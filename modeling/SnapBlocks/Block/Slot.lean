import SnapBlocks.Block.Kind

/-!
# Slots and links

A block holds other blocks in up to three **slots**: the block that follows it,
the argument on its right, and the first block of its body. A slot holds at most
one block, and a held block remembers its holder, so the `Links` of a block are
three forward links and one link back.
-/

namespace SnapBlocks

/-- A block is named by its place in the order of insertion. -/
abbrev BlockId := Nat

/-- **A place on a block to which one other block can be attached.** -/
inductive Slot where
  /-- Below the block: holds its successor. -/
  | next
  /-- Right of the header: holds an argument. -/
  | argument
  /-- Under the header of a nest: holds the first block of the body. -/
  | body
deriving DecidableEq, Repr

namespace Slot

/-- Every slot, in the order in which slots are tried. -/
def all : List Slot := [next, argument, body]

/-- No slot is missing from `Slot.all`. -/
theorem mem_all (slot : Slot) : slot ∈ all := by
  cases slot <;> simp [all]

/-- Whether a block of this kind may be attached to the slot: expressions go
into argument slots, and everything else goes elsewhere. -/
def accepts : Slot → Kind → Bool
  | argument, kind => kind.isInline
  | next, kind | body, kind => !kind.isInline

end Slot

/-- **The links of one block.** -/
structure Links where
  /-- The block in the next slot. -/
  next : Option BlockId
  /-- The block that holds this one in one of its slots. -/
  back : Option BlockId
  /-- The block in the argument slot. -/
  argument : Option BlockId
  /-- The block in the body slot. -/
  body : Option BlockId
deriving DecidableEq, Repr

namespace Links

/-- The links of a block that is attached to nothing. -/
def none : Links := ⟨.none, .none, .none, .none⟩

instance : Inhabited Links := ⟨none⟩

/-- The block that a slot holds. -/
def held (links : Links) : Slot → Option BlockId
  | .next => links.next
  | .argument => links.argument
  | .body => links.body

/-- The links after a block has been put into a slot. -/
def hold (links : Links) (guest : BlockId) : Slot → Links
  | .next => { links with next := some guest }
  | .argument => { links with argument := some guest }
  | .body => { links with body := some guest }

/-- The links after the block has been put into a slot of `host`. -/
def attachTo (links : Links) (host : BlockId) : Links :=
  { links with back := some host }

/-- The held blocks in the order in which a program mentions them: argument,
body, successor. -/
def below (links : Links) : List BlockId :=
  links.argument.toList ++ (links.body.toList ++ links.next.toList)

@[simp] theorem held_none (slot : Slot) : none.held slot = .none := by
  cases slot <;> rfl

@[simp] theorem held_hold_self (links : Links) (guest : BlockId) (slot : Slot) :
    (links.hold guest slot).held slot = some guest := by
  cases slot <;> rfl

theorem held_hold_of_ne (links : Links) (guest : BlockId) {slot other : Slot} (h : other ≠ slot) :
    (links.hold guest slot).held other = links.held other := by
  cases slot <;> cases other <;> simp_all [hold, held]

@[simp] theorem back_hold (links : Links) (guest : BlockId) (slot : Slot) :
    (links.hold guest slot).back = links.back := by
  cases slot <;> rfl

@[simp] theorem held_attachTo (links : Links) (host : BlockId) (slot : Slot) :
    (links.attachTo host).held slot = links.held slot := by
  cases slot <;> rfl

/-- The blocks listed below a block are those in its slots. -/
theorem mem_below {links : Links} {id : BlockId} :
    id ∈ links.below ↔ ∃ slot, links.held slot = some id := by
  simp only [below, List.mem_append, Option.mem_toList]
  constructor
  · rintro (h | h | h)
    · exact ⟨.argument, h⟩
    · exact ⟨.body, h⟩
    · exact ⟨.next, h⟩
  · rintro ⟨slot, h⟩
    cases slot with
    | next => exact .inr (.inr h)
    | argument => exact .inl h
    | body => exact .inr (.inl h)

end Links

end SnapBlocks
