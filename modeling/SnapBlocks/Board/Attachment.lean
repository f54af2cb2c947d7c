import SnapBlocks.Board.Walk
import SnapBlocks.Text.Fixed

/-!
# May this block go into that slot?

A **host** offers a slot, a **guest** is to be put into it. `Board.verdict` asks
the questions in a fixed order and answers with the first that goes against the
guest: first whether the two can ever fit, by their kinds; then whether the guest
lies near enough; and only then who else is there. So a refusal because of
competition is only ever given to a guest within range.

The guest is near enough unless its distance from the slot is **at least** the
range. A distance or a range that is not a number refuses nobody.
-/

namespace SnapBlocks

/-- **Why a guest is not put into a slot.** -/
inductive Refusal where
  /-- Host and guest are the same block. -/
  | sameBlock
  /-- The host is an expression, which has no slots. -/
  | hostIsArgument
  /-- The host has no such slot. -/
  | noSuchSlot
  /-- The slot takes no block of the guest's kind. -/
  | wrongKind (kind : Kind)
  /-- The guest lies too far away. -/
  | tooFar (distance : Float32)
  /-- The slot holds a block already. -/
  | slotFilled (occupant : BlockId)
  /-- The guest is held by a block already. -/
  | alreadyHeld (holder : BlockId)
  /-- The guest is an ancestor of the host. -/
  | wouldCycle
deriving DecidableEq, Repr

namespace Refusal

/-- Whether the guest was near enough and lost to another block or link. -/
def isCompetition : Refusal → Bool
  | slotFilled _ | alreadyHeld _ | wouldCycle => true
  | _ => false

/-- The wording of a refusal. -/
def message : Refusal → String
  | sameBlock => "cannot attach a block to itself"
  | hostIsArgument => "argument blocks have no slots"
  | noSuchSlot => "block has no such slot"
  | wrongKind kind => s!"{kind.title} block cannot fill this slot"
  | tooFar distance => s!"block is {Text.fixed 1 distance} units away"
  | slotFilled occupant => s!"slot already holds block {occupant}"
  | alreadyHeld holder => s!"block is already attached to block {holder}"
  | wouldCycle => "block is an ancestor of the slot owner"

end Refusal

/-- **The answer to whether a guest may be put into a slot.** -/
inductive Verdict where
  /-- It may, and its start belongs at this point. -/
  | accept (spot : Point)
  /-- It may not. -/
  | refuse (reason : Refusal)
deriving DecidableEq, Repr

namespace Board

/-- **Whether `guest` may be put into a slot of `host`**, given how near it has
to lie. A fault if either of two different blocks is not on the board. -/
def verdict (b : Board) (range : Float32) (host guest : BlockId) (slot : Slot) :
    Except Fault Verdict :=
  if host = guest then .ok (.refuse .sameBlock)
  else do
    let owner ← b.fetch host
    let block ← b.fetch guest
    if owner.kind.isInline then return .refuse .hostIsArgument
    match owner.spot? slot with
    | none => return .refuse .noSuchSlot
    | some spot =>
      let distance := spot.distance block.start
      if !slot.accepts block.kind then return .refuse (.wrongKind block.kind)
      else if range ≤ distance then return .refuse (.tooFar distance)
      else match owner.links.held slot, block.links.back with
        | some occupant, _ => return .refuse (.slotFilled occupant)
        | none, some holder => return .refuse (.alreadyHeld holder)
        | none, none =>
          if b.isAbove guest host then return .refuse .wouldCycle
          else return .accept spot

end Board

end SnapBlocks
