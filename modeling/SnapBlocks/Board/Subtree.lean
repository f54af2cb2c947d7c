import SnapBlocks.Board.Walk

/-!
# Subtrees and moving them

The **subtree** of a block is the block with everything attached to it, directly
or through others. It is listed in the order in which a program mentions the
blocks: a block, then the subtree of its argument, of its body, of its successor.

Blocks are moved by subtrees. `carry` moves every block of a subtree by one
displacement; `snap` carries a subtree so that its first block starts at a given
point, and then sets that start point exactly, for adding a difference of two
binary32 values need not lead back to the first of them.
-/

namespace SnapBlocks.Board

/-- The blocks reached from a stack of blocks, each listed where it is first
reached. Blocks in `seen` and names that are not on the board are passed over. -/
def visit (b : Board) : Nat → List BlockId → List BlockId → List BlockId
  | 0, _, _ => []
  | _ + 1, _, [] => []
  | fuel + 1, seen, id :: stack =>
    match b.get? id with
    | none => b.visit fuel seen stack
    | some block =>
      if seen.contains id then b.visit fuel seen stack
      else id :: b.visit fuel (id :: seen) (block.links.below ++ stack)

/-- **The subtree of a block**, the block itself first. A block puts at most
three others on the stack, and does so once, which bounds the number of steps. -/
def subtree (b : Board) (id : BlockId) : List BlockId := b.visit (3 * b.size + 1) [] [id]

/-- **The board with a subtree moved.** A displacement of zero moves nothing, not
even the sign of a zero coordinate. -/
def carry (b : Board) (id : BlockId) (delta : Point) : Board :=
  if delta.isZero then b
  else (b.subtree id).foldl (fun board member => board.modify member (·.translate delta)) b

/-- **The board with a subtree moved so that its first block starts at `target`**,
exactly. -/
def snap (b : Board) (id : BlockId) (target : Point) : Board :=
  match b.get? id with
  | none => b
  | some block => (b.carry id (target - block.start)).modify id (·.pin target)

@[simp] theorem size_foldl_modify (b : Board) (ids : List BlockId) (f : Block → Block) :
    (ids.foldl (fun board id => board.modify id f) b).size = b.size := by
  induction ids generalizing b with
  | nil => rfl
  | cons id ids ih => simp [ih]

@[simp] theorem size_carry (b : Board) (id : BlockId) (delta : Point) :
    (b.carry id delta).size = b.size := by
  unfold carry
  split <;> simp

@[simp] theorem size_snap (b : Board) (id : BlockId) (target : Point) :
    (b.snap id target).size = b.size := by
  unfold snap
  split <;> simp

/-- Nothing moves by a displacement of zero. -/
theorem carry_of_isZero {b : Board} {id : BlockId} {delta : Point} (h : delta.isZero) :
    b.carry id delta = b := by
  simp [carry, h]

end SnapBlocks.Board
