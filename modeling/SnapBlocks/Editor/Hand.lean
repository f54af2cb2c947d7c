import SnapBlocks.Block.Slot

/-!
# The hand

A pointer that has picked up a block holds it until it lets go. While it does,
every move of the pointer is a displacement of the block: from where the pointer
was at the last event to where it is now.
-/

namespace SnapBlocks

/-- **A block being dragged.** -/
structure Held where
  /-- The block. -/
  block : BlockId
  /-- Where the pointer was at the last event. -/
  last : Point
deriving DecidableEq, Repr

/-- **What the pointer holds**: one block at most. -/
structure Hand where
  /-- The block in the hand, if there is one. -/
  held : Option Held
deriving DecidableEq, Repr

namespace Hand

/-- The hand that holds nothing. -/
def empty : Hand := ⟨none⟩

instance : Inhabited Hand := ⟨empty⟩

/-- Whether the hand holds a block. -/
def isBusy (h : Hand) : Bool := h.held.isSome

/-- The hand after an attempt to pick up a block, and whether it succeeded: a
busy hand keeps what it holds. -/
def grab (h : Hand) (block : BlockId) (position : Point) : Hand × Bool :=
  if h.isBusy then (h, false) else (⟨some ⟨block, position⟩⟩, true)

/-- **The hand after the pointer has moved**, and which block is displaced by how
much. -/
def moveTo (h : Hand) (position : Point) : Hand × Option (BlockId × Point) :=
  match h.held with
  | none => (h, none)
  | some held => (⟨some { held with last := position }⟩, some (held.block, position - held.last))

/-- The hand after it has let go, and what it held. -/
def drop (h : Hand) : Hand × Option Held := (empty, h.held)

@[simp] theorem grab_empty (block : BlockId) (position : Point) :
    empty.grab block position = (⟨some ⟨block, position⟩⟩, true) := rfl

/-- A busy hand cannot pick up a second block. -/
theorem grab_of_isBusy {h : Hand} (busy : h.isBusy) (block : BlockId) (position : Point) :
    h.grab block position = (h, false) := by
  simp [grab, busy]

@[simp] theorem moveTo_held (held : Held) (position : Point) :
    (⟨some held⟩ : Hand).moveTo position =
      (⟨some ⟨held.block, position⟩⟩, some (held.block, position - held.last)) := rfl

@[simp] theorem isBusy_moveTo (h : Hand) (position : Point) :
    (h.moveTo position).1.isBusy = h.isBusy := by
  unfold moveTo
  split <;> simp_all [isBusy]

end Hand

end SnapBlocks
