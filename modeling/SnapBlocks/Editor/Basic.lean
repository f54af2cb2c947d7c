import SnapBlocks.Board.Settling
import SnapBlocks.Editor.Hand
import SnapBlocks.Execution.Outcome
import SnapBlocks.Picking
import SnapBlocks.Program.Listing

/-!
# The editor

The editor is a board together with what the user is doing to it: the kind chosen
from the palette, the block in the hand, and whether blocks were placed or moved
since the board was last settled. A program is only ever generated from a settled
board: `generate` settles a stale one first. Editing the code of a block does not
make the board stale, for links follow from positions alone.

The editor remembers the last program that was generated and the last outcome of
running one; where there is no program, both stay what they were.
-/

namespace SnapBlocks

/-- A button of the pointer. -/
inductive Button where
  /-- Picks up and lets go. -/
  | left
  /-- Places a block. -/
  | right
  /-- Does nothing. -/
  | middle
  /-- Any further button; does nothing. -/
  | other
deriving DecidableEq, Repr

/-- **An editing session.** -/
structure Editor where
  /-- The blocks. -/
  board : Board
  /-- How near to a slot a block has to lie to be drawn onto it. -/
  range : Float32
  /-- The kind that the right button places. -/
  selected : Kind
  /-- The block being dragged. -/
  hand : Hand
  /-- Whether blocks were placed or moved since the board was settled. -/
  stale : Bool
  /-- The program generated last. -/
  program : Option String
  /-- The outcome of the last run. -/
  outcome : Option Outcome
deriving DecidableEq, Repr

namespace Editor

/-- The editor of an empty board. -/
def new (range : Float32) : Editor := ⟨.empty, range, .apply, .empty, false, none, none⟩

instance : Inhabited Editor := ⟨new standardRange⟩

/-! ## Editing -/

/-- **Places a fresh block** and names it. -/
def place (e : Editor) (kind : Kind) (position : Point) : Editor × BlockId :=
  ({ e with board := e.board.push (.place kind position), stale := true }, e.board.size)

/-- **Moves a block with everything attached to it.** An unknown name changes nothing. -/
def move (e : Editor) (id : BlockId) (delta : Point) : Editor :=
  if (e.board.get? id).isSome then { e with board := e.board.carry id delta, stale := true } else e

/-- **Replaces the code of a block**, and says whether there is such a block. -/
def edit (e : Editor) (id : BlockId) (text : String) : Editor × Bool :=
  if (e.board.get? id).isSome then
    ({ e with board := e.board.modify id (·.recode text) }, true)
  else (e, false)

/-- **Settles the board.** -/
def settle (e : Editor) : Except Fault (Editor × Report) := do
  let (board, report) ← e.board.settle e.range
  return ({ e with board, stale := false }, report)

/-- The editor with its board settled if blocks were placed or moved. -/
def refresh (e : Editor) : Except Fault Editor :=
  if e.stale then e.settle.map Prod.fst else .ok e

/-- **Generates the program**, from a settled board; there is none unless the
board has exactly one head. -/
def generate (e : Editor) : Except Fault (Editor × Option String) := do
  let e ← e.refresh
  match ← e.board.program? with
  | none => return (e, none)
  | some program => return ({ e with program := some program }, some program)

/-- **Generates the program and runs it.** Without a program nothing is run. -/
def run {σ : Type} (runner : Runner σ) (e : Editor) (memory : σ) :
    Except Fault (Editor × σ × Option Outcome) := do
  match ← e.generate with
  | (e, none) => return (e, memory, none)
  | (e, some program) =>
    let (outcome, memory) := runner program memory
    return ({ e with outcome := some outcome }, memory, some outcome)

/-! ## The palette and the pointer -/

/-- Chooses the kind that the right button places. -/
def select (e : Editor) (kind : Kind) : Editor := { e with selected := kind }

/-- **A button goes down.** The right one places a block of the selected kind; the
left one, while the hand is empty, picks up the topmost block. -/
def press (e : Editor) (button : Button) (position : Point) : Editor × Option BlockId :=
  match button with
  | .right => let (e, id) := e.place e.selected position; (e, some id)
  | .left =>
    if e.hand.isBusy then (e, none)
    else match e.board.pick? position with
      | none => (e, none)
      | some id => ({ e with hand := (e.hand.grab id position).1 }, some id)
  | .middle | .other => (e, none)

/-- **The pointer moves**, and with it the block in the hand. -/
def drag (e : Editor) (position : Point) : Editor :=
  match e.hand.moveTo position with
  | (hand, none) => { e with hand }
  | (hand, some (id, delta)) => { e with hand }.move id delta

/-- **A button comes up.** The left one moves the block in the hand a last time,
lets go of it, and settles the board, even if the hand was empty. -/
def release (e : Editor) (button : Button) (position : Point) :
    Except Fault (Editor × Option Report) :=
  match button with
  | .left => do
    let e := e.drag position
    let (e, report) ← { e with hand := e.hand.drop.1 }.settle
    return (e, some report)
  | .right | .middle | .other => .ok (e, none)

/-! ## What the operations keep -/

/-- Moving a block that is not there changes nothing. -/
theorem move_of_get?_eq_none {e : Editor} {id : BlockId} (h : e.board.get? id = none)
    (delta : Point) : e.move id delta = e := by
  simp [move, h]

/-- Editing a block that is not there changes nothing. -/
theorem edit_of_get?_eq_none {e : Editor} {id : BlockId} (h : e.board.get? id = none)
    (text : String) : e.edit id text = (e, false) := by
  simp [edit, h]

/-- Moving the pointer with an empty hand changes nothing. -/
theorem drag_of_not_isBusy {e : Editor} (h : e.hand.isBusy = false) (position : Point) :
    e.drag position = e := by
  have : e.hand.held = none := by simpa [Hand.isBusy] using h
  simp [drag, Hand.moveTo, this]

end Editor

end SnapBlocks
