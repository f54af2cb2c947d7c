import SnapBlocks.Proofs.Sessions

/-!
# A drag is moves and a settling

A gesture starts when the left button goes down on a block and ends when it comes up.
While it lasts the hand holds the block, and where the pointer was seen last. Only three
actions look into the hand: the pointer moves, the left button goes down, and the left
button comes up. All others do the same whatever the hand holds (`Workspace.perform_withHand`).

So a gesture may be told without a hand. `Action.directly` puts in the place of every move
of the pointer the same move of the block, and leaves out the presses of the left button,
for a busy hand takes no second block. What is left comes to the same workspace
(`Workspace.performAll_holding`), and letting go is one more move of the block and one
settling.
-/

namespace SnapBlocks

variable {id : BlockId} {seen : Point}

/-! ## What does not look into the hand -/

namespace Editor

/-- The editor with something else in the hand. -/
def withHand (e : Editor) (hand : Hand) : Editor := { e with hand }

theorem move_withHand (e : Editor) (hand : Hand) (id : BlockId) (delta : Point) :
    (e.withHand hand).move id delta = (e.move id delta).withHand hand := by
  by_cases there : (e.board.get? id).isSome <;> simp [move, withHand, there]

theorem edit_withHand (e : Editor) (hand : Hand) (id : BlockId) (text : String) :
    (e.withHand hand).edit id text = ((e.edit id text).1.withHand hand, (e.edit id text).2) := by
  by_cases there : (e.board.get? id).isSome <;> simp [edit, withHand, there]

theorem settle_withHand (e : Editor) (hand : Hand) :
    (e.withHand hand).settle = e.settle.map fun done => (done.1.withHand hand, done.2) := by
  rw [settle, settle, withHand]
  cases e.board.settle e.range <;> rfl

theorem refresh_withHand (e : Editor) (hand : Hand) :
    (e.withHand hand).refresh = e.refresh.map (·.withHand hand) := by
  unfold refresh
  show (if e.stale then _ else _) = _
  split
  · rw [settle_withHand]
    cases e.settle <;> rfl
  · rfl

theorem generate_withHand (e : Editor) (hand : Hand) :
    (e.withHand hand).generate = e.generate.map fun done => (done.1.withHand hand, done.2) := by
  rw [generate, generate, refresh_withHand]
  cases e.refresh with
  | error fault => rfl
  | ok refreshed =>
    show (refreshed.board.program? >>= _) = (refreshed.board.program? >>= _).map _
    cases refreshed.board.program? with
    | error fault => rfl
    | ok program => cases program <;> rfl

theorem run_withHand {σ : Type} (runner : Runner σ) (e : Editor) (hand : Hand) (memory : σ) :
    (e.withHand hand).run runner memory
      = (e.run runner memory).map fun done => (done.1.withHand hand, done.2) := by
  rw [run, run, generate_withHand]
  cases e.generate with
  | error fault => rfl
  | ok answer =>
    obtain ⟨generated, program⟩ := answer
    cases program <;> rfl

end Editor

/-- **Whether an action looks into the hand.** -/
def Action.handles : Action → Bool
  | .drag _ | .press .left _ | .release .left _ => true
  | _ => false

namespace Workspace

variable {σ : Type} {runner : Runner σ} {w next : Workspace σ} {action : Action} {reply : Reply}
  {actions : List Action}

/-- The workspace with something else in the hand. -/
def withHand (w : Workspace σ) (hand : Hand) : Workspace σ := w.setEditor (w.editor.withHand hand)

@[simp] theorem editor_withHand (w : Workspace σ) (hand : Hand) :
    (w.withHand hand).editor = w.editor.withHand hand := rfl

@[simp] theorem memory_withHand (w : Workspace σ) (hand : Hand) :
    (w.withHand hand).memory = w.memory := rfl

/-- **What does not look into the hand does the same whatever is in it**, and leaves it
there. -/
theorem perform_withHand (runner : Runner σ) (w : Workspace σ) (hand : Hand)
    (handless : action.handles = false) :
    (w.withHand hand).perform runner action
      = (w.perform runner action).map fun done => (done.1.withHand hand, done.2) := by
  cases action with
  | drag => cases handless
  | place | select => rfl
  | move id delta =>
    rw [perform, editor_withHand, Editor.move_withHand]
    rfl
  | edit id text =>
    rw [perform, editor_withHand, Editor.edit_withHand]
    rfl
  | commit number text =>
    rw [perform, perform, commit, commit]
    cases BlockId.ofInt? number with
    | none => rfl
    | some id =>
      dsimp only
      rw [editor_withHand, Editor.edit_withHand]
      rfl
  | choose name =>
    rw [perform, perform, choose, choose]
    cases Kind.ofLabel? name <;> rfl
  | press button position =>
    cases button with
    | left => cases handless
    | right | middle | other => rfl
  | release button position =>
    cases button with
    | left => cases handless
    | right | middle | other => rfl
  | settle =>
    rw [perform, perform, editor_withHand, Editor.settle_withHand]
    cases w.editor.settle <;> rfl
  | generate =>
    rw [perform, perform, editor_withHand, Editor.generate_withHand]
    cases w.editor.generate <;> rfl
  | execute =>
    rw [perform, perform, editor_withHand, memory_withHand, Editor.run_withHand]
    cases w.editor.run runner w.memory <;> rfl
  | run =>
    rw [perform, perform, run, run, editor_withHand, memory_withHand, Editor.run_withHand]
    cases w.editor.run runner w.memory with
    | error fault => rfl
    | ok answer =>
      obtain ⟨editor, memory, outcome⟩ := answer
      cases outcome <;> rfl

/-- What does not look into the hand leaves in it what is there. -/
theorem hand_of_perform (handless : action.handles = false)
    (run : w.perform runner action = .ok (next, reply)) : next.editor.hand = w.editor.hand := by
  have same := perform_withHand runner w w.editor.hand handless
  have unchanged : w.withHand w.editor.hand = w := rfl
  rw [unchanged, run] at same
  have left := congrArg (fun done => done.1.editor.hand) (Except.ok.inj same)
  exact left

end Workspace

/-! ## With a block in the hand -/

namespace Editor

variable {e : Editor}

/-- **With a block in the hand, the pointer moves that block and no other**, by as much as
it has moved since it was seen last. -/
structure Holds (e : Editor) (id : BlockId) (seen : Point) : Prop where
  /-- This is what is in the hand. -/
  hand : e.hand = ⟨some ⟨id, seen⟩⟩
  /-- There is such a block. -/
  present : (e.board.get? id).isSome
  /-- Moving the pointer is moving the block. -/
  drag (position : Point) :
    e.drag position = (e.move id (position - seen)).withHand ⟨some ⟨id, position⟩⟩
  /-- The left button picks up nothing, and changes nothing. -/
  press (position : Point) : e.press .left position = (e, none)
  /-- Letting go is moving the block and settling the board. -/
  release (position : Point) : e.release .left position
    = (e.move id (position - seen)).settle.map fun done => (done.1.withHand .empty, some done.2)
  /-- The board can be settled then. -/
  settles (position : Point) : ∃ s report, (e.move id (position - seen)).settle = .ok (s, report)

theorem drag_of_hand (hand : e.hand = ⟨some ⟨id, seen⟩⟩) (position : Point) :
    e.drag position = (e.move id (position - seen)).withHand ⟨some ⟨id, position⟩⟩ :=
  drag_of_held (congrArg Hand.held hand) position

theorem press_of_hand (hand : e.hand = ⟨some ⟨id, seen⟩⟩) (position : Point) :
    e.press .left position = (e, none) := by
  rw [Editor.press, Hand.isBusy, hand]
  rfl

/-- Letting go of a block moves it a last time and settles the board. -/
theorem release_of_hand (hand : e.hand = ⟨some ⟨id, seen⟩⟩) (position : Point) :
    e.release .left position = (e.move id (position - seen)).settle.map
      fun done => (done.1.withHand .empty, some done.2) := by
  rw [Editor.release, drag_of_hand hand]
  show (((e.move id (position - seen)).withHand .empty).settle >>= _) = _
  rw [settle_withHand]
  cases (e.move id (position - seen)).settle <;> rfl

theorem holds_of_hand (hand : e.hand = ⟨some ⟨id, seen⟩⟩) (present : (e.board.get? id).isSome) :
    e.Holds id seen where
  hand := hand
  present := present
  drag := drag_of_hand hand
  press := press_of_hand hand
  release := release_of_hand hand
  settles position := by
    obtain ⟨board, report, -, done⟩ := (e.move id (position - seen)).exists_settle
    exact ⟨_, report, done⟩

/-- **Only an empty hand picks up a block**, and only one that is there. -/
theorem of_press {position : Point} (picked : (e.press .left position).2 = some id) :
    e.hand = .empty ∧ (e.board.get? id).isSome ∧
      (e.press .left position).1 = e.withHand ⟨some ⟨id, position⟩⟩ := by
  rw [press] at picked ⊢
  cases held : e.hand.held with
  | some held =>
    rw [Hand.isBusy, held] at picked
    cases picked
  | none =>
    have empty : e.hand = .empty := congrArg Hand.mk held
    rw [empty] at picked ⊢
    cases found : e.board.pick? position with
    | none =>
      rw [found] at picked
      cases picked
    | some other =>
      rw [found] at picked
      obtain rfl : other = id := Option.some.inj picked
      exact ⟨rfl, Board.isSome_of_pick? found, rfl⟩

end Editor

namespace Action

/-- Where the pointer has been seen last, after an action. -/
def seenLast (seen : Point) : Action → Point
  | .drag position => position
  | _ => seen

/-- **An action while a block is in the hand, without a hand**: the pointer moves the block,
and the left button does nothing. -/
def direct (id : BlockId) (seen : Point) : Action → List Action
  | .drag position => [.move id (position - seen)]
  | .press .left _ => []
  | action => [action]

/-- **A gesture without a hand.** -/
def directly (id : BlockId) : Point → List Action → List Action
  | _, [] => []
  | seen, action :: actions => action.direct id seen ++ directly id (action.seenLast seen) actions

/-- An action that does not look into the hand stays as it is. -/
theorem direct_of_handless {action : Action} (handless : action.handles = false) :
    action.direct id seen = [action] ∧ action.seenLast seen = seen := by
  cases action with
  | drag => cases handless
  | press button | release button =>
    cases button with
    | left => cases handless
    | right | middle | other => exact ⟨rfl, rfl⟩
  | place | move | edit | commit | choose | select | settle | generate | execute | run =>
    exact ⟨rfl, rfl⟩

end Action

namespace Workspace

variable {σ : Type} {runner : Runner σ} {w next : Workspace σ} {action : Action} {reply : Reply}
  {actions : List Action}

section Holding

variable (hand : w.editor.hand = ⟨some ⟨id, seen⟩⟩)

include hand

/-- **One action of a gesture.** Apart from the hand it comes to the same as without a hand,
and the block stays in the hand. -/
theorem perform_holding (runner : Runner σ) (stays : ∀ position, action ≠ .release .left position) :
    (w.perform runner action).map (·.1.withHand .empty)
        = (w.withHand .empty).performAll runner (action.direct id seen) ∧
      ∀ next reply, w.perform runner action = .ok (next, reply) →
        next.editor.hand = ⟨some ⟨id, action.seenLast seen⟩⟩ := by
  cases handless : action.handles with
  | false =>
    obtain ⟨direct, unseen⟩ := Action.direct_of_handless handless
    rw [direct, unseen, performAll_singleton, perform_withHand runner w .empty handless]
    refine ⟨?_, fun next reply run => (hand_of_perform handless run).trans hand⟩
    cases w.perform runner action <;> rfl
  | true =>
    cases action with
    | drag position =>
      have moved : w.perform runner (.drag position) = .ok
          (w.setEditor ((w.editor.move id (position - seen)).withHand ⟨some ⟨id, position⟩⟩),
            .done) := by
        rw [perform, Editor.drag_of_hand hand]
      refine ⟨?_, fun next reply run => ?_⟩
      · rw [moved, Action.direct, performAll_singleton, perform, editor_withHand,
          Editor.move_withHand]
        rfl
      · cases moved.symm.trans run
        rfl
    | press button position =>
      cases button with
      | right | middle | other => cases handless
      | left =>
        have nothing : w.perform runner (.press .left position) = .ok (w, .touched none) := by
          rw [perform, Editor.press_of_hand hand]
          rfl
        refine ⟨?_, fun next reply run => ?_⟩
        · rw [nothing]
          rfl
        · cases nothing.symm.trans run
          exact hand
    | release button position =>
      cases button with
      | right | middle | other => cases handless
      | left => exact absurd rfl (stays position)
    | place | move | edit | commit | choose | select | settle | generate | execute | run =>
      cases handless

/-- **A gesture goes on without a hand.** -/
theorem performAll_holding (runner : Runner σ)
    (stays : ∀ position, .release .left position ∉ actions) :
    (w.performAll runner actions).map (·.withHand .empty)
        = (w.withHand .empty).performAll runner (Action.directly id seen actions) ∧
      ∀ next, w.performAll runner actions = .ok next →
        next.editor.hand = ⟨some ⟨id, actions.foldl Action.seenLast seen⟩⟩ := by
  induction actions generalizing w seen with
  | nil => exact ⟨rfl, fun next run => Except.ok.inj run ▸ hand⟩
  | cons action actions ih =>
    have first_stays : ∀ position, action ≠ .release .left position :=
      fun position first => stays position (first ▸ List.mem_cons_self)
    obtain ⟨same, held⟩ := perform_holding hand runner first_stays
    have rest_stays : ∀ position, .release .left position ∉ actions :=
      fun position mem => stays position (List.mem_cons_of_mem _ mem)
    rw [Action.directly, performAll_append, ← same, ← List.singleton_append, performAll_append,
      performAll_singleton]
    cases performed : w.perform runner action with
    | error fault => exact ⟨rfl, nofun⟩
    | ok done => exact ih (held done.1 done.2 performed) rest_stays

/-- **Letting go is one more move and a settling.** -/
theorem performAll_release (runner : Runner σ) (position : Point) :
    w.performAll runner [.release .left position]
      = (w.withHand .empty).performAll runner [.move id (position - seen), .settle] := by
  have moved : (w.withHand .empty).performAll runner [.move id (position - seen), .settle]
      = performAll runner
          (w.setEditor ((w.editor.withHand .empty).move id (position - seen))) [.settle] := rfl
  rw [moved, Editor.move_withHand, performAll_singleton, performAll_singleton, perform, perform,
    Editor.release_of_hand hand]
  show _ = ((((w.editor.move id (position - seen)).withHand .empty).settle >>= _)).map _
  rw [Editor.settle_withHand]
  cases (w.editor.move id (position - seen)).settle <;> rfl

end Holding

/-- **A drag is moves and a settling.** Let the left button go down on a block, and let any
actions follow that do not let go of it. None of them faults on a board that can come up.
After them, and so after each, the block is in the hand, and the pointer was seen last
where it went down or was moved to last (`Editor.Holds`).

Let the left button then come up. The same is reached without a hand: by the actions with
moves of the block in the place of moves of the pointer and without further presses of the
left button, one more move, and one settling. -/
theorem gesture_eq_moves (runner : Runner σ) (w : Workspace σ) (down : Point)
    (actions : List Action) (picked : (w.editor.press .left down).2 = some id)
    (stays : ∀ position, .release .left position ∉ actions) :
    (w.editor.board.Reachable →
      ∃ next, w.performAll runner (.press .left down :: actions) = .ok next) ∧
    (∀ next, w.performAll runner (.press .left down :: actions) = .ok next →
      next.editor.Holds id (actions.foldl Action.seenLast down)) ∧
    ∀ up, w.performAll runner (.press .left down :: actions ++ [.release .left up])
      = w.performAll runner (Action.directly id down actions ++
          [.move id (up - actions.foldl Action.seenLast down), .settle]) := by
  obtain ⟨free, present, grabbed⟩ := Editor.of_press picked
  have grabs : ∀ rest, w.performAll runner (.press .left down :: rest)
      = (w.withHand ⟨some ⟨id, down⟩⟩).performAll runner rest := by
    intro rest
    rw [performAll, List.foldlM_cons]
    show performAll runner (w.setEditor (w.editor.press .left down).1) rest = _
    rw [grabbed]
    rfl
  have lets_go : (w.withHand ⟨some ⟨id, down⟩⟩).withHand .empty = w := by
    rw [← free]
    rfl
  obtain ⟨same, held⟩ :=
    performAll_holding (w := w.withHand ⟨some ⟨id, down⟩⟩) rfl runner stays
  rw [lets_go] at same
  refine ⟨fun reachable => ?_, fun next run => ?_, fun up => ?_⟩
  · obtain ⟨next, run, -⟩ := exists_performAll runner reachable (.press .left down :: actions)
    exact ⟨next, run⟩
  · rw [grabs] at run
    refine Editor.holds_of_hand (held next run) ?_
    rw [Board.get?_isSome_iff] at present ⊢
    exact present.trans_le (undergoes_performAll run).size_le
  · rw [List.cons_append, grabs, performAll_append, performAll_append, ← same]
    cases run : (w.withHand ⟨some ⟨id, down⟩⟩).performAll runner actions with
    | error fault => rfl
    | ok next => exact performAll_release (held next run) runner up

/-- A workspace with one call. -/
def loneCall : Workspace Unit := ⟨((Editor.new standardRange).place .call .origin).1, [], ()⟩

/-- Moves of the pointer, with a press of either button and a settling in between. -/
def pulls : List Action :=
  [.drag ⟨30, 0⟩, .press .left ⟨30, 0⟩, .press .right ⟨200, 0⟩, .settle, .drag ⟨40, 10⟩]

/-- The call is dragged while a second block is placed. -/
theorem gesture_eq_moves_loneCall :
    (∃ next, loneCall.performAll .echo (.press .left ⟨5, 5⟩ :: pulls) = .ok next ∧
      next.editor.Holds 0 ⟨40, 10⟩) ∧
    loneCall.performAll .echo (.press .left ⟨5, 5⟩ :: pulls ++ [.release .left ⟨45, 10⟩])
      = loneCall.performAll .echo
          [.move 0 (⟨30, 0⟩ - ⟨5, 5⟩), .press .right ⟨200, 0⟩, .settle,
            .move 0 (⟨40, 10⟩ - ⟨30, 0⟩), .move 0 (⟨45, 10⟩ - ⟨40, 10⟩), .settle] := by
  have picked : (loneCall.editor.press .left ⟨5, 5⟩).2 = some 0 := by decide +kernel
  have stays : ∀ position, .release .left position ∉ pulls := by
    intro position released
    simp [pulls] at released
  obtain ⟨runs, holds, same⟩ := gesture_eq_moves .echo loneCall ⟨5, 5⟩ pulls picked stays
  obtain ⟨next, run⟩ := runs (.push .call .origin "" .empty)
  exact ⟨⟨next, run, holds next run⟩, same ⟨45, 10⟩⟩

end Workspace

end SnapBlocks
