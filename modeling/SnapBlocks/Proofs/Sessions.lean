import SnapBlocks.Editor.Workspace
import SnapBlocks.Proofs.Programs
import SnapBlocks.Proofs.Resting

/-!
# Sessions

A session is a list of actions, carried out one after another. Whatever an action does to
the board comes down to a few **deeds**: a block is placed, a block is moved with all that
it holds, a block gets a text, or the board is settled. `Editor.deeds` says which deeds an
action amounts to, given what the user has selected and holds in the hand.

This is all that happens to a board (`Workspace.undergoes_perform`), and the editor calls
its board stale exactly if a block has been placed or moved after the last settling. So a
board in a session is one that can come up, and no action faults on it
(`Workspace.exists_performAll`).

To speak of what has happened in a session, something is noted of each action when it is
carried out, and `Workspace.chronicle` strings the notes together.
-/

namespace SnapBlocks

variable {b c : Board} {range : Float32}

/-! ## Deeds -/

/-- **Something that happens to a board.** -/
inductive Deed where
  /-- A fresh block is placed. -/
  | place (kind : Kind) (position : Point)
  /-- A block of the board is moved, with everything attached to it. -/
  | move (id : BlockId) (delta : Point)
  /-- A block of the board gets another text. -/
  | recode (id : BlockId) (text : String)
  /-- The board is settled. -/
  | settle
deriving DecidableEq

namespace Deed

/-- The board after a deed. -/
def act (range : Float32) (b : Board) : Deed → Except Fault Board
  | place kind position => .ok (b.push (.place kind position))
  | move id delta => .ok (b.carry id delta)
  | recode id text => .ok (b.modify id (·.recode text))
  | settle => (b.settle range).map Prod.fst

/-- Whether blocks lie elsewhere than the last settling has left them, after a deed. -/
def mark (stale : Bool) : Deed → Bool
  | place .. | move .. => true
  | recode .. => stale
  | settle => false

/-- A deed makes a board that can come up of another. -/
theorem reachable_act {deed : Deed} (h : b.Reachable) (done : deed.act range b = .ok c) :
    c.Reachable := by
  cases deed with
  | place kind position =>
    cases done
    exact .push kind position kind.initialCode h
  | move id delta =>
    cases done
    exact .carry id delta h
  | recode id text =>
    cases done
    exact .recode id text h
  | settle =>
    obtain ⟨⟨s, report⟩, settled, rfl⟩ := map_eq_ok done
    exact .settle h settled

/-- A deed takes no block off the board. -/
theorem size_le_of_act {deed : Deed} (done : deed.act range b = .ok c) : b.size ≤ c.size := by
  cases deed with
  | place kind position =>
    cases done
    rw [Board.size_push]
    exact Nat.le_succ _
  | move id delta =>
    cases done
    exact (Board.size_carry b id delta).ge
  | recode id text =>
    cases done
    exact (Board.size_modify b id _).ge
  | settle =>
    obtain ⟨⟨s, report⟩, settled, rfl⟩ := map_eq_ok done
    obtain ⟨-, same⟩ :=
      Board.of_settle (Board.stable_sameMeanings b range) b.sameMeanings_unlink settled
    exact same.size_eq.le

end Deed

/-! ## What the operations of the editor do -/

namespace Editor

variable {e m next : Editor} {done done' : List Deed} {id : BlockId}

/-- The editor once its board has been settled to another. -/
def settledTo (e : Editor) (board : Board) : Editor := { e with board, stale := false }

/-- What moving a block does, if there is such a block. -/
def moving (e : Editor) (id : BlockId) (delta : Point) : List Deed :=
  if (e.board.get? id).isSome then [.move id delta] else []

/-- What giving a block a text does, if there is such a block. -/
def recoding (e : Editor) (id : BlockId) (text : String) : List Deed :=
  if (e.board.get? id).isSome then [.recode id text] else []

/-- What moving the pointer does: it moves the block in the hand. -/
def dragging (e : Editor) (position : Point) : List Deed :=
  match e.hand.held with
  | none => []
  | some held => e.moving held.block (position - held.last)

/-- What is done to the board before a program is generated. -/
def refreshing (e : Editor) : List Deed := if e.stale then [.settle] else []

/-- **What an action does to the board.** -/
def deeds (e : Editor) : Action → List Deed
  | .place kind position => [.place kind position]
  | .move id delta => e.moving id delta
  | .edit id text => e.recoding id text
  | .commit number text =>
    match BlockId.ofInt? number with
    | none => []
    | some id => e.recoding id text
  | .press .right position => [.place e.selected position]
  | .drag position => e.dragging position
  | .release .left position => e.dragging position ++ [.settle]
  | .settle => [.settle]
  | .generate | .execute | .run => e.refreshing
  | .press .left _ | .press .middle _ | .press .other _ | .release .right _
  | .release .middle _ | .release .other _ | .choose _ | .select _ => []

/-- **The editor becomes another one while these deeds are done to its board**: the boards
say so, and the mark for a stale board is put and taken away accordingly. -/
structure Undergoes (e : Editor) (done : List Deed) (next : Editor) : Prop where
  range : next.range = e.range
  board : done.foldlM (Deed.act e.range) e.board = .ok next.board
  stale : next.stale = done.foldl Deed.mark e.stale

namespace Undergoes

theorem refl (e : Editor) : e.Undergoes [] e := ⟨rfl, rfl, rfl⟩

theorem trans (h : e.Undergoes done m) (h' : m.Undergoes done' next) :
    e.Undergoes (done ++ done') next := by
  refine ⟨h'.range.trans h.range, ?_, ?_⟩
  · rw [List.foldlM_append, h.board, ← h.range]
    exact h'.board
  · rw [List.foldl_append, ← h.stale]
    exact h'.stale

theorem reachable (h : e.Undergoes done next) (reach : e.board.Reachable) :
    next.board.Reachable :=
  foldlM_induction h.board reach fun _ _ _ _ hs step => Deed.reachable_act hs step

theorem size_le (h : e.Undergoes done next) : e.board.size ≤ next.board.size :=
  foldlM_induction (P := fun b => e.board.size ≤ b.size) h.board le_rfl
    fun _ _ _ _ le step => le.trans (Deed.size_le_of_act step)

end Undergoes

theorem undergoes_move (e : Editor) (id : BlockId) (delta : Point) :
    e.Undergoes (e.moving id delta) (e.move id delta) := by
  unfold moving move
  split
  · exact ⟨rfl, rfl, rfl⟩
  · exact .refl e

theorem undergoes_edit (e : Editor) (id : BlockId) (text : String) :
    e.Undergoes (e.recoding id text) (e.edit id text).1 := by
  unfold recoding edit
  split
  · exact ⟨rfl, rfl, rfl⟩
  · exact .refl e

/-- **With a block in the hand, moving the pointer is moving that block** by as much as the
pointer has moved since it was seen last. -/
theorem drag_of_held {held : Held} (h : e.hand.held = some held) (position : Point) :
    e.drag position
      = { e.move held.block (position - held.last) with
          hand := ⟨some ⟨held.block, position⟩⟩ } := by
  have moved : e.hand.moveTo position
      = (⟨some ⟨held.block, position⟩⟩, some (held.block, position - held.last)) := by
    rw [Hand.moveTo, h]
  rw [drag, moved]
  unfold move
  dsimp only
  split <;> rfl

theorem undergoes_drag (e : Editor) (position : Point) :
    e.Undergoes (e.dragging position) (e.drag position) := by
  unfold dragging
  split
  · rename_i nothing
    rw [drag_of_not_isBusy (by rw [Hand.isBusy, nothing]; rfl)]
    exact .refl e
  · rename_i held in_hand
    have moved := e.undergoes_move held.block (position - held.last)
    rw [drag_of_held in_hand]
    exact ⟨moved.range, moved.board, moved.stale⟩

/-- **Settling never faults**, and changes nothing but the board and the mark on it. -/
theorem exists_settle (e : Editor) : ∃ board report,
    e.board.settle e.range = .ok (board, report) ∧ e.settle = .ok (e.settledTo board, report) := by
  obtain ⟨board, report, settled, -⟩ :=
    Board.exists_settle (Board.stable_true e.range) e.board trivial
  refine ⟨board, report, settled, ?_⟩
  rw [settle, settled]
  rfl

theorem undergoes_settledTo {report : Report} {board : Board}
    (settled : e.board.settle e.range = .ok (board, report)) :
    e.Undergoes [.settle] (e.settledTo board) := by
  refine ⟨rfl, ?_, rfl⟩
  rw [List.foldlM_cons, Deed.act, settled]
  rfl

/-- A board that is not stale is as it would be settled. -/
theorem settledTo_self (fresh : e.stale = false) : e.settledTo e.board = e := by
  rw [settledTo, ← fresh]

/-- **The board is settled before a program is generated if it is stale**, and else left
alone. -/
theorem exists_refresh (e : Editor) : ∃ board,
    e.refresh = .ok (e.settledTo board) ∧ e.Undergoes e.refreshing (e.settledTo board) := by
  cases mark : e.stale with
  | false =>
    refine ⟨e.board, ?_, ?_⟩
    · rw [refresh, mark, settledTo_self mark]
      rfl
    · rw [refreshing, mark, settledTo_self mark]
      exact .refl e
  | true =>
    obtain ⟨board, report, settled, done⟩ := e.exists_settle
    refine ⟨board, ?_, ?_⟩
    · rw [refresh, mark, done]
      rfl
    · rw [refreshing, mark]
      exact undergoes_settledTo settled

section Refreshed

variable {board : Board} (refreshed : e.refresh = .ok (e.settledTo board))

include refreshed

/-- **A program is read off the refreshed board**, and remembered if there is one. -/
theorem generate_eq : e.generate = board.program?.map fun program =>
    ({ e.settledTo board with program := program.or e.program }, program) := by
  rw [generate, refreshed]
  show (board.program? >>= _) = _
  cases board.program? with
  | error fault => rfl
  | ok program => cases program <;> rfl

/-- **What is run is the program of the refreshed board**, if it has one. -/
theorem run_eq {σ : Type} (runner : Runner σ) (memory : σ) : e.run runner memory =
    board.program?.map fun program =>
      match program with
      | none => (e.settledTo board, memory, none)
      | some text =>
        ({ e.settledTo board with program := some text, outcome := some (runner text memory).1 },
          (runner text memory).2, some (runner text memory).1) := by
  rw [run, generate_eq refreshed]
  cases board.program? with
  | error fault => rfl
  | ok program => cases program <;> rfl

/-- What has been generated is the program of the refreshed board. -/
theorem of_generate {program : Option String} (run : e.generate = .ok (next, program)) :
    board.program? = .ok program ∧
      next = { e.settledTo board with program := program.or e.program } := by
  rw [generate_eq refreshed] at run
  obtain ⟨_, found, same⟩ := map_eq_ok run
  cases same
  exact ⟨found, rfl⟩

end Refreshed

/-- Generating a program does no more to the board than refreshing it. -/
theorem undergoes_generate {program : Option String} (run : e.generate = .ok (next, program)) :
    e.Undergoes e.refreshing next := by
  obtain ⟨board, refreshed, undergoes⟩ := e.exists_refresh
  obtain ⟨-, rfl⟩ := of_generate refreshed run
  exact ⟨undergoes.range, undergoes.board, undergoes.stale⟩

/-- Running a program does no more to the board than that. -/
theorem undergoes_run {σ : Type} {runner : Runner σ} {memory memory' : σ}
    {outcome : Option Outcome} (ran : e.run runner memory = .ok (next, memory', outcome)) :
    e.Undergoes e.refreshing next := by
  obtain ⟨board, refreshed, undergoes⟩ := e.exists_refresh
  rw [run_eq refreshed] at ran
  obtain ⟨program, -, same⟩ := map_eq_ok ran
  cases program <;> cases same <;> exact ⟨undergoes.range, undergoes.board, undergoes.stale⟩

/-- Letting go of a block moves it a last time and settles the board. -/
theorem exists_release (e : Editor) (position : Point) : ∃ board report,
    (e.drag position).board.settle e.range = .ok (board, report) ∧
    e.release .left position
      = .ok ({ (e.drag position).settledTo board with hand := .empty }, some report) := by
  have dragged := e.undergoes_drag position
  obtain ⟨board, report, settled, done⟩ :=
    exists_settle { e.drag position with hand := (e.drag position).hand.drop.1 }
  refine ⟨board, report, dragged.range ▸ settled, ?_⟩
  rw [release]
  show (settle _ >>= _) = _
  rw [done]
  rfl

end Editor

/-- On a board that can come up there is an answer to whether there is a program. -/
theorem Board.Reachable.exists_program? (h : b.Reachable) : ∃ program, b.program? = .ok program :=
  ⟨_, program?_eq h.forest h.wellHeld⟩

/-! ## What the actions do -/

namespace Workspace

variable {σ : Type} {runner : Runner σ} {w next : Workspace σ} {action : Action} {reply : Reply}
  {actions : List Action}

/-- **What an action does to the board is done by its deeds**, and the mark for a stale
board is right if it was right before. -/
theorem undergoes_perform (run : w.perform runner action = .ok (next, reply)) :
    w.editor.Undergoes (w.editor.deeds action) next.editor := by
  cases action with
  | place kind position =>
    cases run
    exact ⟨rfl, rfl, rfl⟩
  | move id delta =>
    cases run
    exact w.editor.undergoes_move id delta
  | edit id text =>
    cases run
    exact w.editor.undergoes_edit id text
  | commit number text =>
    cases run
    show w.editor.Undergoes (match BlockId.ofInt? number with | none => [] | some id => _)
      (w.commit number text).1.editor
    rw [commit]
    cases BlockId.ofInt? number with
    | none => exact .refl _
    | some id => exact w.editor.undergoes_edit id text
  | choose name =>
    cases run
    show w.editor.Undergoes [] (w.choose name).1.editor
    unfold choose
    split <;> exact ⟨rfl, rfl, rfl⟩
  | select kind =>
    cases run
    exact ⟨rfl, rfl, rfl⟩
  | press button position =>
    cases run
    cases button with
    | right => exact ⟨rfl, rfl, rfl⟩
    | middle | other => exact .refl _
    | left =>
      show w.editor.Undergoes [] (w.editor.press .left position).1
      unfold Editor.press
      dsimp only
      split
      · exact .refl _
      · split <;> exact ⟨rfl, rfl, rfl⟩
  | drag position =>
    cases run
    exact w.editor.undergoes_drag position
  | release button position =>
    cases button with
    | right | middle | other =>
      cases run
      exact .refl _
    | left =>
      have dragged := w.editor.undergoes_drag position
      obtain ⟨board, report, settled, released⟩ := w.editor.exists_release position
      rw [perform, released] at run
      cases run
      have settled := Editor.undergoes_settledTo (dragged.range ▸ settled)
      exact dragged.trans ⟨settled.range, settled.board, settled.stale⟩
  | settle =>
    obtain ⟨board, report, settled, done⟩ := w.editor.exists_settle
    rw [perform, done] at run
    cases run
    exact Editor.undergoes_settledTo settled
  | generate =>
    obtain ⟨⟨editor, program⟩, generated, run⟩ := bind_eq_ok run
    cases run
    exact Editor.undergoes_generate generated
  | execute =>
    obtain ⟨⟨editor, memory, outcome⟩, ran, run⟩ := bind_eq_ok run
    cases run
    exact Editor.undergoes_run ran
  | run =>
    obtain ⟨⟨shown, program⟩, ran, run⟩ := bind_eq_ok run
    cases run
    obtain ⟨⟨editor, memory, outcome⟩, executed, shows⟩ := bind_eq_ok ran
    cases outcome <;> cases shows <;> exact Editor.undergoes_run executed

/-- **No action faults** on a board that can come up. -/
theorem exists_perform (runner : Runner σ) (h : w.editor.board.Reachable) (action : Action) :
    ∃ next reply, w.perform runner action = .ok (next, reply) := by
  obtain ⟨board, refreshed, undergoes⟩ := w.editor.exists_refresh
  obtain ⟨program, found⟩ : ∃ program, board.program? = .ok program :=
    (undergoes.reachable h).exists_program?
  cases action with
  | place | move | edit | commit | choose | select | press | drag => exact ⟨_, _, rfl⟩
  | release button position =>
    cases button with
    | right | middle | other => exact ⟨_, _, rfl⟩
    | left =>
      obtain ⟨board, report, -, released⟩ := w.editor.exists_release position
      rw [perform, released]
      exact ⟨_, _, rfl⟩
  | settle =>
    obtain ⟨board, report, -, settled⟩ := w.editor.exists_settle
    rw [perform, settled]
    exact ⟨_, _, rfl⟩
  | generate =>
    rw [perform, Editor.generate_eq refreshed, found]
    exact ⟨_, _, rfl⟩
  | execute =>
    rw [perform, Editor.run_eq refreshed, found]
    exact ⟨_, _, rfl⟩
  | run =>
    rw [perform, Workspace.run, Editor.run_eq refreshed, found]
    cases program <;> exact ⟨_, _, rfl⟩

/-! ## Sessions and what is noted of them -/

theorem performAll_cons :
    w.performAll runner (action :: actions) = .ok next ↔ ∃ m reply,
      w.perform runner action = .ok (m, reply) ∧ m.performAll runner actions = .ok next := by
  rw [performAll, List.foldlM_cons]
  constructor
  · intro run
    obtain ⟨m, carried_out, rest⟩ := bind_eq_ok run
    obtain ⟨⟨_, reply⟩, first, rfl⟩ := map_eq_ok carried_out
    exact ⟨_, reply, first, rest⟩
  · rintro ⟨m, reply, first, rest⟩
    rw [first]
    exact rest

theorem performAll_append (runner : Runner σ) (w : Workspace σ) (actions later : List Action) :
    w.performAll runner (actions ++ later)
      = w.performAll runner actions >>= (performAll runner · later) :=
  List.foldlM_append

theorem performAll_singleton (runner : Runner σ) (w : Workspace σ) (action : Action) :
    w.performAll runner [action] = (w.perform runner action).map Prod.fst := by
  rw [performAll, List.foldlM_cons]
  cases w.perform runner action <;> rfl

/-- **No session faults**, whatever is done in it and whatever the runner answers. -/
theorem exists_performAll (runner : Runner σ) (h : w.editor.board.Reachable)
    (actions : List Action) :
    ∃ next, w.performAll runner actions = .ok next ∧ next.editor.board.Reachable :=
  exists_foldlM_eq_ok (P := fun w : Workspace σ => w.editor.board.Reachable) h
    fun w action _ reach => by
      obtain ⟨next, reply, run⟩ := exists_perform runner reach action
      rw [run]
      exact ⟨next, rfl, (undergoes_perform run).reachable reach⟩

section Chronicle

variable {α : Type} {P : List α → Workspace σ → Prop}

/-- **What is noted in a session.** A note is taken of each action when it is about to be
carried out. -/
def chronicle (runner : Runner σ) (note : Workspace σ → Action → List α) :
    Workspace σ → List Action → List α
  | _, [] => []
  | w, action :: actions => note w action ++
      match w.perform runner action with
      | .ok (next, _) => chronicle runner note next actions
      | .error _ => []

/-- **What is true of the notes and the workspace after each action, is true after all of
them.** -/
theorem performAll_induction {note : Workspace σ → Action → List α} (notes : List α)
    (start : P notes w)
    (step : ∀ notes w action next reply, P notes w → w.perform runner action = .ok (next, reply) →
      P (notes ++ note w action) next)
    (run : w.performAll runner actions = .ok next) :
    P (notes ++ w.chronicle runner note actions) next := by
  induction actions generalizing w notes with
  | nil =>
    cases run
    rwa [chronicle, List.append_nil]
  | cons action actions ih =>
    obtain ⟨m, reply, first, rest⟩ := performAll_cons.mp run
    rw [chronicle, first, ← List.append_assoc]
    exact ih _ (step notes w action m reply start first) rest

end Chronicle

/-- **All the deeds of the actions**, each action being carried out on what the ones before
it have left. -/
def deeds (runner : Runner σ) (w : Workspace σ) (actions : List Action) : List Deed :=
  w.chronicle runner (fun w action => w.editor.deeds action) actions

/-- **Everything that happens to the board in a session is done by the deeds of its
actions.** -/
theorem undergoes_performAll (run : w.performAll runner actions = .ok next) :
    w.editor.Undergoes (w.deeds runner actions) next.editor :=
  performAll_induction (P := fun done next => w.editor.Undergoes done next.editor) []
    (.refl w.editor) (fun _ _ _ _ _ done step => done.trans (undergoes_perform step)) run

end Workspace

end SnapBlocks
