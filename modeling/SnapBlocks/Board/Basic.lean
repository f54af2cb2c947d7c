import SnapBlocks.Block.Basic
import SnapBlocks.Fault

/-!
# The board

The board holds the placed blocks in the order in which they were placed. A block
is named by its place in that order; no block is ever removed, so a name stays
good. The order matters: where two blocks compete for one slot, it decides.

Links between blocks are kept on the blocks themselves. A block that no other
block holds is a **head**; a board with exactly one head is a program.
-/

namespace SnapBlocks

/-- **The placed blocks, in order of placement.** -/
structure Board where
  /-- The blocks; a block is named by its index. -/
  blocks : Array Block
deriving DecidableEq, Repr

namespace Board

/-- The board without blocks. -/
def empty : Board := ⟨#[]⟩

instance : Inhabited Board := ⟨empty⟩

/-- The number of blocks. -/
def size (b : Board) : Nat := b.blocks.size

/-- Every block's name, in order. -/
def ids (b : Board) : List BlockId := List.range b.size

/-- The block of this name, if there is one. -/
def get? (b : Board) (id : BlockId) : Option Block := b.blocks[id]?

/-- **The block of this name; a fault if there is none.** -/
def fetch (b : Board) (id : BlockId) : Except Fault Block :=
  match b.get? id with
  | some block => .ok block
  | none => .error (.missing b.size id)

/-- The board with one more block. The new block is named by the old size. -/
def push (b : Board) (block : Block) : Board := ⟨b.blocks.push block⟩

/-- The board with one block changed; nothing happens to an unknown name. -/
def modify (b : Board) (id : BlockId) (f : Block → Block) : Board := ⟨b.blocks.modify id f⟩

/-- The board with every block changed. -/
def map (b : Board) (f : Block → Block) : Board := ⟨b.blocks.map f⟩

/-- Every block with its name, in order of placement. -/
def named (b : Board) : List (BlockId × Block) :=
  b.ids.filterMap fun id => (b.get? id).map (id, ·)

/-- What holds the block, if anything does. -/
def back? (b : Board) (id : BlockId) : Option BlockId := (b.get? id).bind (·.links.back)

/-- What a slot of the block holds, if anything. -/
def held? (b : Board) (id : BlockId) (slot : Slot) : Option BlockId :=
  (b.get? id).bind (·.links.held slot)

/-- The blocks that nothing holds, in order. -/
def heads (b : Board) : List BlockId := b.ids.filter (b.back? · |>.isNone)

/-- The only head, when there is exactly one. -/
def head? (b : Board) : Option BlockId :=
  match b.heads with
  | [id] => some id
  | _ => none

/-- The board with every link cleared. -/
def unlink (b : Board) : Board := b.map (·.withLinks .none)

/-- **The board after a block has been put into a slot.** Host and guest both
record the link. -/
def link (b : Board) (host guest : BlockId) (slot : Slot) : Board :=
  (b.modify host fun block => block.withLinks (block.links.hold guest slot)).modify guest
    fun block => block.withLinks (block.links.attachTo host)

/-! ## Looking up after a change -/

@[simp] theorem size_push (b : Board) (block : Block) : (b.push block).size = b.size + 1 := by
  simp [size, push]

@[simp] theorem size_modify (b : Board) (id : BlockId) (f : Block → Block) :
    (b.modify id f).size = b.size := by
  simp [size, modify]

@[simp] theorem size_map (b : Board) (f : Block → Block) : (b.map f).size = b.size := by
  simp [size, map]

@[simp] theorem size_unlink (b : Board) : b.unlink.size = b.size := size_map ..

@[simp] theorem size_link (b : Board) (host guest : BlockId) (slot : Slot) :
    (b.link host guest slot).size = b.size := by
  simp [link]

theorem get?_push (b : Board) (block : Block) (id : BlockId) :
    (b.push block).get? id = if id = b.size then some block else b.get? id :=
  Array.getElem?_push

theorem get?_modify (b : Board) (id other : BlockId) (f : Block → Block) :
    (b.modify id f).get? other = if id = other then (b.get? other).map f else b.get? other := by
  simp only [get?, modify, Array.getElem?_modify]

@[simp] theorem get?_map (b : Board) (f : Block → Block) (id : BlockId) :
    (b.map f).get? id = (b.get? id).map f := by
  simp [get?, map]

theorem get?_eq_none_iff {b : Board} {id : BlockId} : b.get? id = none ↔ b.size ≤ id := by
  simp [get?, size]

theorem get?_isSome_iff {b : Board} {id : BlockId} : (b.get? id).isSome ↔ id < b.size := by
  simp [get?, size]

theorem fetch_eq_ok_iff {b : Board} {id : BlockId} {block : Block} :
    b.fetch id = .ok block ↔ b.get? id = some block := by
  unfold fetch
  split <;> simp_all

/-- Fetching fails exactly on the names that are not on the board. -/
theorem fetch_eq_error_iff {b : Board} {id : BlockId} {fault : Fault} :
    b.fetch id = .error fault ↔ b.size ≤ id ∧ fault = .missing b.size id := by
  unfold fetch
  split
  · rename_i block h
    have : id < b.size := get?_isSome_iff.1 (by simp [h])
    simp [Nat.not_le.2 this]
  · rename_i h
    simp [get?_eq_none_iff.1 h, eq_comm]

theorem mem_ids {b : Board} {id : BlockId} : id ∈ b.ids ↔ id < b.size := by
  simp [ids]

theorem mem_heads {b : Board} {id : BlockId} :
    id ∈ b.heads ↔ id < b.size ∧ b.back? id = none := by
  simp [heads, mem_ids]

end Board

end SnapBlocks
