import SnapBlocks.Proofs.Sessions

/-!
# Runs are all or nothing

A program is run from the board, settled before if it is stale. Without exactly one head
there is no program; then nothing is run, and what the console and the editor show of
earlier runs stays. With one head the program is handed to the runner once, and editor,
console and memory all take the answer.

So the workspace always shows its `Launch`es, the programs that have been handed to the
runner so far (`Workspace.Shows`): the runner has been given exactly these, the editor
remembers the outcome of the last one, and the console has the transcript of the last one
that was to be shown. Running a program without showing it does not touch the console,
and generating one does not touch any of the three.
-/

namespace SnapBlocks

/-- **A program that has been handed to the runner.** -/
structure Launch where
  /-- Whether the outcome goes to the console. -/
  shown : Bool
  /-- The program. -/
  program : String
  /-- What the runner has answered. -/
  outcome : Outcome

/-! ## Whether there is a program -/

/-- **There is a program exactly if there is one head.** -/
theorem Board.Reachable.program?_cases {b : Board} (h : b.Reachable) :
    b.heads.length ≠ 1 ∧ b.program? = .ok none ∨
      b.heads.length = 1 ∧ ∃ text, b.program? = .ok (some text) := by
  rw [program?_eq h.forest h.wellHeld, head?]
  split
  · rename_i head heads
    exact .inr ⟨congrArg List.length heads, b.script head, rfl⟩
  · rename_i other
    refine .inl ⟨fun one => ?_, rfl⟩
    obtain ⟨head, heads⟩ := List.length_eq_one_iff.mp one
    exact other head heads

namespace Editor

variable {e : Editor} {board : Board} {program : Option String}

/-- **The program that would be run**: that of the board, settled if it is stale. -/
def offer? (e : Editor) : Option String :=
  (e.refresh.bind fun refreshed => refreshed.board.program?).toOption.join

theorem offer?_eq (refreshed : e.refresh = .ok (e.settledTo board))
    (found : board.program? = .ok program) : e.offer? = program := by
  rw [offer?, refreshed]
  show board.program?.toOption.join = program
  rw [found]
  rfl

/-- Without a program nothing is run. -/
theorem run_of_none {σ : Type} (runner : Runner σ) (memory : σ)
    (refreshed : e.refresh = .ok (e.settledTo board)) (found : board.program? = .ok none) :
    e.run runner memory = .ok (e.settledTo board, memory, none) := by
  rw [run_eq refreshed, found]
  rfl

/-- A program is run once, and is remembered with its outcome. -/
theorem run_of_some {σ : Type} (runner : Runner σ) (memory : σ) {text : String}
    (refreshed : e.refresh = .ok (e.settledTo board)) (found : board.program? = .ok (some text)) :
    e.run runner memory = .ok
      ({ e.settledTo board with program := some text, outcome := some (runner text memory).1 },
        (runner text memory).2, some (runner text memory).1) := by
  rw [run_eq refreshed, found]
  rfl

/-! ## What has nothing to do with runs -/

theorem outcome_move (e : Editor) (id : BlockId) (delta : Point) :
    (e.move id delta).outcome = e.outcome := by
  unfold move
  split <;> rfl

theorem outcome_edit (e : Editor) (id : BlockId) (text : String) :
    (e.edit id text).1.outcome = e.outcome := by
  unfold edit
  split <;> rfl

theorem outcome_press (e : Editor) (button : Button) (position : Point) :
    (e.press button position).1.outcome = e.outcome := by
  cases button with
  | right | middle | other => rfl
  | left =>
    unfold press
    dsimp only
    split
    · rfl
    · split <;> rfl

theorem outcome_drag (e : Editor) (position : Point) :
    (e.drag position).outcome = e.outcome := by
  unfold drag
  split
  · rfl
  · exact outcome_move ..

theorem outcome_release {next : Editor} {button : Button} {position : Point}
    {report : Option Report} (released : e.release button position = .ok (next, report)) :
    next.outcome = e.outcome := by
  cases button with
  | right | middle | other =>
    cases released
    rfl
  | left =>
    obtain ⟨board, report, -, done⟩ := e.exists_release position
    cases done.symm.trans released
    exact e.outcome_drag position

end Editor

namespace Workspace

variable {σ : Type} {runner : Runner σ} {w next : Workspace σ} {action : Action} {reply : Reply}
  {memory : σ} {log : List Launch} {launch : Launch} {board : Board}

/-- Only a run touches the memory of the runner, the outcome that the editor remembers, or
the console. -/
theorem perform_of_not_run (run : w.perform runner action = .ok (next, reply))
    (not_execute : action ≠ .execute) (not_run : action ≠ .run) :
    next.memory = w.memory ∧ next.editor.outcome = w.editor.outcome ∧
      next.console = w.console := by
  cases action with
  | execute => exact absurd rfl not_execute
  | run => exact absurd rfl not_run
  | place | select =>
    cases run
    exact ⟨rfl, rfl, rfl⟩
  | move id delta =>
    cases run
    exact ⟨rfl, w.editor.outcome_move id delta, rfl⟩
  | edit id text =>
    cases run
    exact ⟨rfl, w.editor.outcome_edit id text, rfl⟩
  | commit number text =>
    cases run
    cases BlockId.ofInt? number with
    | none => exact ⟨rfl, rfl, rfl⟩
    | some id => exact ⟨rfl, w.editor.outcome_edit id text, rfl⟩
  | choose name =>
    cases run
    cases Kind.ofLabel? name with
    | none => exact ⟨rfl, rfl, rfl⟩
    | some kind => exact ⟨rfl, rfl, rfl⟩
  | press button position =>
    cases run
    exact ⟨rfl, w.editor.outcome_press button position, rfl⟩
  | drag position =>
    cases run
    exact ⟨rfl, w.editor.outcome_drag position, rfl⟩
  | release button position =>
    obtain ⟨⟨editor, report⟩, released, run⟩ := bind_eq_ok run
    cases run
    exact ⟨rfl, Editor.outcome_release released, rfl⟩
  | settle =>
    obtain ⟨board, report, -, settled⟩ := w.editor.exists_settle
    rw [perform, settled] at run
    cases run
    exact ⟨rfl, rfl, rfl⟩
  | generate =>
    obtain ⟨⟨editor, program⟩, generated, run⟩ := bind_eq_ok run
    cases run
    obtain ⟨board, refreshed, -⟩ := w.editor.exists_refresh
    obtain ⟨-, rfl⟩ := Editor.of_generate refreshed generated
    exact ⟨rfl, rfl, rfl⟩

/-- Without a program the console stays as it is. -/
theorem run_of_none (runner : Runner σ)
    (refreshed : w.editor.refresh = .ok (w.editor.settledTo board))
    (found : board.program? = .ok none) :
    w.run runner = .ok (w.setEditor (w.editor.settledTo board), "") := by
  rw [run, Editor.run_of_none runner w.memory refreshed found]
  rfl

/-- A program that has been run is shown on the console. -/
theorem run_of_some (runner : Runner σ) {text : String}
    (refreshed : w.editor.refresh = .ok (w.editor.settledTo board))
    (found : board.program? = .ok (some text)) :
    w.run runner = .ok
      (⟨{ w.editor.settledTo board with
          program := some text, outcome := some (runner text w.memory).1 },
        (runner text w.memory).1.transcript, (runner text w.memory).2⟩, text) := by
  rw [run, Editor.run_of_some runner w.memory refreshed found]
  rfl

/-! ## The launches of a session -/

/-- The launch of the program that there is to run, if there is one. -/
def launch? (runner : Runner σ) (w : Workspace σ) (shown : Bool) : Option Launch :=
  w.editor.offer?.map fun program => ⟨shown, program, (runner program w.memory).1⟩

/-- **What an action hands to the runner**: the two runs a program, if there is one. -/
def launching (runner : Runner σ) (w : Workspace σ) : Action → List Launch
  | .execute => (w.launch? runner false).toList
  | .run => (w.launch? runner true).toList
  | _ => []

/-- **The workspace shows these launches**, and no others. -/
structure Shows (runner : Runner σ) (memory : σ) (log : List Launch) (w : Workspace σ) : Prop where
  /-- The runner has been given the programs, one after another. -/
  memory : w.memory = log.foldl (fun memory launch => (runner launch.program memory).2) memory
  /-- The last outcome is remembered. -/
  outcome : w.editor.outcome = log.getLast?.map Launch.outcome
  /-- The console has the transcript of the last launch that was to be shown. -/
  console : w.console =
    ((log.filter Launch.shown).getLast?.map (·.outcome.transcript)).getD []

namespace Shows

theorem keep (h : w.Shows runner memory log)
    (same : next.memory = w.memory ∧ next.editor.outcome = w.editor.outcome ∧
      next.console = w.console) : next.Shows runner memory log :=
  ⟨same.1.trans h.memory, same.2.1.trans h.outcome, same.2.2.trans h.console⟩

theorem append (h : w.Shows runner memory log)
    (remembers : next.memory = (runner launch.program w.memory).2)
    (outcome : next.editor.outcome = some launch.outcome)
    (console : next.console = if launch.shown then launch.outcome.transcript else w.console) :
    next.Shows runner memory (log ++ [launch]) := by
  refine ⟨?_, ?_, ?_⟩
  · rw [remembers, h.memory, List.foldl_append]
    rfl
  · rw [outcome, List.getLast?_concat]
    rfl
  · rw [console, h.console, List.filter_append]
    cases shown : launch.shown with
    | false => rw [List.filter_singleton, shown, cond_false, List.append_nil]; rfl
    | true => rw [List.filter_singleton, shown, cond_true, List.getLast?_concat]; rfl

/-- **After each action the workspace shows what it has shown before, and what the action
has handed to the runner.** -/
theorem perform (h : w.Shows runner memory log) (reachable : w.editor.board.Reachable)
    (run : w.perform runner action = .ok (next, reply)) :
    next.Shows runner memory (log ++ w.launching runner action) := by
  have unrun : w.launching runner action = [] → action ≠ .execute → action ≠ .run →
      next.Shows runner memory (log ++ w.launching runner action) := by
    intro nothing not_execute not_run
    rw [nothing, List.append_nil]
    exact h.keep (perform_of_not_run run not_execute not_run)
  obtain ⟨board, refreshed, undergoes⟩ := w.editor.exists_refresh
  have ways := (undergoes.reachable reachable).program?_cases
  cases action with
  | place | move | edit | commit | choose | select | press | drag | release | settle
  | generate => exact unrun rfl nofun nofun
  | execute =>
    rw [Workspace.perform] at run
    obtain ⟨-, found⟩ | ⟨-, text, found⟩ := ways
    · rw [Editor.run_of_none runner w.memory refreshed found] at run
      cases run
      rw [launching, launch?, Editor.offer?_eq refreshed found]
      exact (List.append_nil log).symm ▸ h.keep ⟨rfl, rfl, rfl⟩
    · rw [Editor.run_of_some runner w.memory refreshed found] at run
      cases run
      rw [launching, launch?, Editor.offer?_eq refreshed found]
      exact h.append rfl rfl rfl
  | run =>
    rw [Workspace.perform] at run
    obtain ⟨-, found⟩ | ⟨-, text, found⟩ := ways
    · rw [run_of_none runner refreshed found] at run
      cases run
      rw [launching, launch?, Editor.offer?_eq refreshed found]
      exact (List.append_nil log).symm ▸ h.keep ⟨rfl, rfl, rfl⟩
    · rw [run_of_some runner refreshed found] at run
      cases run
      rw [launching, launch?, Editor.offer?_eq refreshed found]
      exact h.append rfl rfl rfl

end Shows

/-- The error text of the first run stays on the console, since with a second head nothing
is run. -/
example : ((new standardRange [.failure "one\ntwo\n" "failed"]).performAll .scripted
    [.place .call .origin, .run, .place .call ⟨300, 0⟩, .run, .execute]).toOption.map console
      = some ["one", "two", "failed"] := by
  decide +kernel

end Workspace

end SnapBlocks
