import SnapBlocks.Editor.Basic
import SnapBlocks.Text.Lines

/-!
# The workspace

Around the editor lies a workspace with a **console** that shows what the last
program printed, and with a runner, of which the workspace keeps the memory.

Everything a user can do is an `Action`, and `perform` carries one out and
answers it. A fault can only come out of an action that follows links, and leaves
no new workspace behind.
-/

namespace SnapBlocks

/-- The block that an integer names; a negative one names none. -/
def BlockId.ofInt? : Int → Option BlockId
  | .ofNat id => some id
  | .negSucc _ => none

/-- **The integer that names a block**, limited to what fits into 32 bits with a sign. -/
def BlockId.toInt (id : BlockId) : Int := min (id : Int) 0x7FFFFFFF

namespace Outcome

/-- What the console shows of an outcome: the printed lines, then the error. -/
def transcript (o : Outcome) : List String := Text.lines o.stdout ++ o.error.toList

/-- Of a success the console shows what was printed. -/
@[simp] theorem transcript_success (stdout : String) :
    (success stdout).transcript = Text.lines stdout :=
  List.append_nil _

/-- Of a failure the console shows the error text as well, behind all that was printed. -/
@[simp] theorem transcript_failure (stdout error : String) :
    (failure stdout error).transcript = Text.lines stdout ++ [error] := rfl

end Outcome

/-- **An editor with a console and the memory of its runner.** -/
structure Workspace (σ : Type) where
  /-- The editor. -/
  editor : Editor
  /-- The lines on the console. -/
  console : List String
  /-- What the runner remembers. -/
  memory : σ

/-- **Something a user does.** -/
inductive Action where
  /-- Places a block. -/
  | place (kind : Kind) (position : Point)
  /-- Moves a block with everything attached to it. -/
  | move (id : BlockId) (delta : Point)
  /-- Replaces the code of a block. -/
  | edit (id : BlockId) (text : String)
  /-- Replaces the code of the block that an integer names. -/
  | commit (number : Int) (text : String)
  /-- Chooses an entry of the palette by name. -/
  | choose (name : String)
  /-- Chooses a kind. -/
  | select (kind : Kind)
  /-- Puts a button down. -/
  | press (button : Button) (position : Point)
  /-- Moves the pointer. -/
  | drag (position : Point)
  /-- Lets a button up. -/
  | release (button : Button) (position : Point)
  /-- Settles the board. -/
  | settle
  /-- Generates the program. -/
  | generate
  /-- Runs the program without showing anything on the console. -/
  | execute
  /-- Runs the program and shows the outcome on the console. -/
  | run
deriving DecidableEq, Repr

/-- **The answer to an action.** -/
inductive Reply where
  /-- It is done. -/
  | done
  /-- The name of the placed block. -/
  | placed (id : BlockId)
  /-- Whether the named thing exists. -/
  | known (present : Bool)
  /-- The block placed or picked up by a button. -/
  | touched (id : Option BlockId)
  /-- The report, if the board was settled. -/
  | settled (report : Option Report)
  /-- The program, if there is one. -/
  | generated (program : Option String)
  /-- The outcome, if a program was run. -/
  | executed (outcome : Option Outcome)
  /-- The program that was run; empty if none was. -/
  | ran (program : String)
deriving DecidableEq, Repr

namespace Workspace

variable {σ : Type}

/-- The workspace of an empty board. -/
def new (range : Float32) (memory : σ) : Workspace σ := ⟨.new range, [], memory⟩

/-- The workspace with another editor. -/
def setEditor (w : Workspace σ) (editor : Editor) : Workspace σ := { w with editor }

/-- **Runs the program** and shows the outcome on the console. The answer is the
program, or the empty text if nothing was run; then the console stays as it is. -/
def run (runner : Runner σ) (w : Workspace σ) : Except Fault (Workspace σ × String) := do
  match ← w.editor.run runner w.memory with
  | (editor, memory, none) => return ({ w with editor, memory }, "")
  | (editor, memory, some outcome) =>
    return (⟨editor, outcome.transcript, memory⟩, editor.program.getD "")

/-- Replaces the code of the block that an integer names, and says whether there
is such a block. -/
def commit (w : Workspace σ) (number : Int) (text : String) : Workspace σ × Bool :=
  match BlockId.ofInt? number with
  | none => (w, false)
  | some id => let (editor, found) := w.editor.edit id text; (w.setEditor editor, found)

/-- Chooses an entry of the palette, and says whether there is one of this name. -/
def choose (w : Workspace σ) (name : String) : Workspace σ × Bool :=
  match Kind.ofLabel? name with
  | none => (w, false)
  | some kind => (w.setEditor (w.editor.select kind), true)

/-- **Carries out an action** and answers it. -/
def perform (runner : Runner σ) (w : Workspace σ) : Action → Except Fault (Workspace σ × Reply)
  | .place kind position =>
    let (editor, id) := w.editor.place kind position
    .ok (w.setEditor editor, .placed id)
  | .move id delta => .ok (w.setEditor (w.editor.move id delta), .done)
  | .edit id text =>
    let (editor, found) := w.editor.edit id text
    .ok (w.setEditor editor, .known found)
  | .commit number text => let (w, found) := w.commit number text; .ok (w, .known found)
  | .choose name => let (w, found) := w.choose name; .ok (w, .known found)
  | .select kind => .ok (w.setEditor (w.editor.select kind), .done)
  | .press button position =>
    let (editor, id) := w.editor.press button position
    .ok (w.setEditor editor, .touched id)
  | .drag position => .ok (w.setEditor (w.editor.drag position), .done)
  | .release button position => do
    let (editor, report) ← w.editor.release button position
    return (w.setEditor editor, .settled report)
  | .settle => do
    let (editor, report) ← w.editor.settle
    return (w.setEditor editor, .settled (some report))
  | .generate => do
    let (editor, program) ← w.editor.generate
    return (w.setEditor editor, .generated program)
  | .execute => do
    let (editor, memory, outcome) ← w.editor.run runner w.memory
    return ({ w with editor, memory }, .executed outcome)
  | .run => do
    let (w, program) ← w.run runner
    return (w, .ran program)

/-- **Carries out actions one after another.** -/
def performAll (runner : Runner σ) (w : Workspace σ) (actions : List Action) :
    Except Fault (Workspace σ) :=
  actions.foldlM (fun w action => (w.perform runner action).map Prod.fst) w

end Workspace

end SnapBlocks
