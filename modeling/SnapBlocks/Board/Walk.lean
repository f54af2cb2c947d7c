import SnapBlocks.Board.Basic

/-!
# Walking along links

Forward, a **chain** is a block, its successor, the successor of that, and so on.
Backward, a block has a line of **ancestors**: what holds it, what holds that,
and so on; its **depth** is the number of times this line leaves a body.

A walk that visits more blocks than there are must visit one of them twice, and
will then go on forever. So each walk is given as many steps as there are blocks
and one more; a chain that is not over by then is `endless`, and a line of
ancestors is cut there.
-/

namespace SnapBlocks.Board

/-- The chain from a block on, if it is over within `fuel` blocks. -/
def chainWithin (b : Board) : Nat → Option BlockId → Except Fault (List BlockId)
  | _, none => .ok []
  | 0, some _ => .error .endless
  | fuel + 1, some id => do
    let rest ← b.chainWithin fuel (b.held? id .next)
    return id :: rest

/-- **The chain of blocks that starts with `start`.** A name that is not on the
board is a chain of its own. -/
def chain (b : Board) (start : Option BlockId) : Except Fault (List BlockId) :=
  b.chainWithin (b.size + 1) start

/-- The chain in the body of a nest; empty for every other block. -/
def interior (b : Board) (nest : BlockId) : Except Fault (List BlockId) :=
  b.chain (b.held? nest .body)

/-- The first `steps` ancestors of a block, nearest first. -/
def climb (b : Board) : Nat → BlockId → List BlockId
  | 0, _ => []
  | steps + 1, id =>
    match b.back? id with
    | none => []
    | some host => host :: b.climb steps host

/-- **The ancestors of a block**, nearest first. -/
def ancestors (b : Board) (id : BlockId) : List BlockId := b.climb (b.size + 1) id

/-- Whether `candidate` is an ancestor of the block `id`. -/
def isAbove (b : Board) (candidate id : BlockId) : Bool := (b.ancestors id).contains candidate

/-- How many of the first `steps` links upward leave a body. -/
def depthWithin (b : Board) : Nat → BlockId → Except Fault Nat
  | 0, _ => .ok 0
  | steps + 1, id =>
    match b.back? id with
    | none => .ok 0
    | some host => do
      let block ← b.fetch host
      let above ← b.depthWithin steps host
      return if block.links.body = some id then above + 1 else above

/-- **The number of bodies around a block.** -/
def depth (b : Board) (id : BlockId) : Except Fault Nat := b.depthWithin (b.size + 1) id

@[simp] theorem chain_none (b : Board) : b.chain none = .ok [] := rfl

theorem chainWithin_succ (b : Board) (fuel : Nat) (id : BlockId) :
    b.chainWithin (fuel + 1) (some id) =
      (b.chainWithin fuel (b.held? id .next)).map (id :: ·) := by
  rw [chainWithin]
  cases b.chainWithin fuel (b.held? id .next) <;> rfl

/-- A head has no ancestors. -/
theorem ancestors_eq_nil {b : Board} {id : BlockId} (h : b.back? id = none) :
    b.ancestors id = [] := by
  simp [ancestors, climb, h]

/-- A head lies in no body. -/
theorem depth_eq_zero {b : Board} {id : BlockId} (h : b.back? id = none) : b.depth id = .ok 0 := by
  simp [depth, depthWithin, h]

end SnapBlocks.Board
