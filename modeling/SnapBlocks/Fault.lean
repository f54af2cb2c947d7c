import SnapBlocks.Block.Slot

/-!
# Faults

Links are followed without asking whether they lead anywhere, so an operation
that follows them can fail in two ways: a link, or the caller, names a block that
is not on the board, or the links run in a circle and following them never ends.
Neither happens on a board whose links were made by settling it; that this is so
is a statement about the board, and for it to be one the operations return an
`Except Fault` rather than some answer that hides the difference.
-/

namespace SnapBlocks

/-- **Why following links came to no answer.** -/
inductive Fault where
  /-- On a board of `size` blocks there is no block `id`. -/
  | missing (size : Nat) (id : BlockId)
  /-- The links that were followed run in a circle. -/
  | endless
deriving DecidableEq, Repr

/-- The wording of a fault. -/
def Fault.message : Fault → String
  | missing size id => s!"index out of bounds: the len is {size} but the index is {id}"
  | endless => "the links never end"

end SnapBlocks
