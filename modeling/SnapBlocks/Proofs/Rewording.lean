import SnapBlocks.Proofs.Runs
import SnapBlocks.Proofs.Texts

/-!
# Sessions that differ in texts

Take two sessions with the same actions, except that other texts are given to blocks, and
let each have a runner of its own. The user sees the same in both: the blocks lie in the
same places and hold each other in the same way, the same block is in the hand, the same
kind is selected, every settling gives the same report, and there is a program in the one
exactly when there is one in the other.

The actions are compared by `Action.SameButTexts`, the answers by `Reply.SameButTexts`, and
the editors by `Editor.SameButTexts`. One action leads from editors that are the same but
for texts to such editors again, with such answers (`Workspace.exists_perform_sameButTexts`),
and from this it follows for whole sessions. What the two runners answer never comes into
it, for an outcome is only kept and shown.
-/

namespace SnapBlocks

variable {b c : Board}

/-! ## What is compared -/

/-- **The actions are the same but for the text** that they give to a block. -/
inductive Action.SameButTexts : Action → Action → Prop
  /-- The actions are the same. -/
  | same (action : Action) : SameButTexts action action
  /-- A block gets one text or another. -/
  | edit (id : BlockId) (text text' : String) : SameButTexts (.edit id text) (.edit id text')
  /-- A block named by an integer gets one text or another. -/
  | commit (number : Int) (text text' : String) :
      SameButTexts (.commit number text) (.commit number text')

/-- **The answers are the same but for texts**: those of programs, and what became of running
them. Whether there is a program, and whether one has been run, is the same. -/
inductive Reply.SameButTexts : Reply → Reply → Prop
  /-- The answers are the same. -/
  | same (reply : Reply) : SameButTexts reply reply
  /-- There is a program in both cases or in neither. -/
  | generated {program program' : Option String} : program.isSome = program'.isSome →
      SameButTexts (.generated program) (.generated program')
  /-- A program has been run in both cases or in neither. -/
  | executed {outcome outcome' : Option Outcome} : outcome.isSome = outcome'.isSome →
      SameButTexts (.executed outcome) (.executed outcome')
  /-- A program has been run, or the text is empty as there is none. -/
  | ran (program program' : String) : SameButTexts (.ran program) (.ran program')

/-- **The editors are the same but for texts.** -/
structure Editor.SameButTexts (e f : Editor) : Prop where
  /-- The blocks have the same kinds, the same points and the same links. -/
  board : e.board.SameButCodes f.board
  /-- The range is the same. -/
  range : e.range = f.range
  /-- The same kind is selected. -/
  selected : e.selected = f.selected
  /-- The same block is in the hand, and the pointer was seen last at the same point. -/
  hand : e.hand = f.hand
  /-- Both boards are stale or none is. -/
  stale : e.stale = f.stale
  /-- Both remember a program or none does. -/
  program : e.program.isSome = f.program.isSome
  /-- Both remember an outcome or none does. -/
  outcome : e.outcome.isSome = f.outcome.isSome

/-- **On boards that are the same but for texts there is a program on both or on none.** -/
theorem Board.SameButCodes.exists_program? (h : b.SameButCodes c) (hb : b.Reachable)
    (hc : c.Reachable) : ∃ program program', b.program? = .ok program ∧
      c.program? = .ok program' ∧ program.isSome = program'.isSome := by
  have heads := congrArg List.length h.heads_eq
  obtain ⟨none, nothing⟩ | ⟨one, text, found⟩ := hb.program?_cases <;>
    obtain ⟨none', nothing'⟩ | ⟨one', text', found'⟩ := hc.program?_cases
  · exact ⟨_, _, nothing, nothing', rfl⟩
  · exact absurd (heads.trans one') none
  · exact absurd (heads.symm.trans one) none'
  · exact ⟨_, _, found, found', rfl⟩

/-! ## The operations of the editor -/

namespace Editor

variable {e f : Editor}

/-- Settling the board settles the editor. -/
theorem settle_eq_ok {s : Board} {report : Report}
    (settled : e.board.settle e.range = .ok (s, report)) :
    e.settle = .ok (e.settledTo s, report) := by
  rw [settle, settled]
  rfl

/-- Letting go of what is in the hand settles the board. -/
theorem release_eq_ok {s : Editor} {report : Report} {position : Point}
    (settled : ({ e.drag position with hand := .empty } : Editor).settle = .ok (s, report)) :
    e.release .left position = .ok (s, some report) := by
  rw [release]
  show (settle { e.drag position with hand := .empty } >>= _) = _
  rw [settled]
  rfl

/-- A board that can come up can come up refreshed. -/
theorem reachable_of_refresh {m : Editor} (reachable : e.board.Reachable)
    (refreshed : e.refresh = .ok m) : m.board.Reachable := by
  obtain ⟨s, again, undergoes⟩ := e.exists_refresh
  cases again.symm.trans refreshed
  exact undergoes.reachable reachable

/-- **Settling commutes with editing the text of a block**, and the report is the same. -/
theorem settle_edit (e : Editor) (id : BlockId) (text : String) :
    (e.edit id text).1.settle = e.settle.map fun done => ((done.1.edit id text).1, done.2) := by
  obtain ⟨s, report, settled, done⟩ := e.exists_settle
  obtain ⟨-, same⟩ := Board.of_settle (Board.stable_sameMeanings e.board e.range)
    e.board.sameMeanings_unlink settled
  have there : (s.get? id).isSome = (e.board.get? id).isSome := by
    rw [Bool.eq_iff_iff, Board.get?_isSome_iff, Board.get?_isSome_iff, same.size_eq]
  rw [done]
  show _ = Except.ok (((e.settledTo s).edit id text).1, report)
  rw [edit, edit, show (e.settledTo s).board = s from rfl, there]
  split
  · exact settle_eq_ok ((e.board.settle_recode id text e.range).trans (by rw [settled]; rfl))
  · exact done

namespace SameButTexts

variable (h : e.SameButTexts f)

include h

theorem move (id : BlockId) (delta : Point) : (e.move id delta).SameButTexts (f.move id delta) := by
  unfold Editor.move
  rw [h.board.isSome_get?]
  split
  · exact { h with board := h.board.carry id delta, stale := rfl }
  · exact h

theorem edit (id : BlockId) (text text' : String) :
    (e.edit id text).1.SameButTexts (f.edit id text').1 ∧
      (e.edit id text).2 = (f.edit id text').2 := by
  unfold Editor.edit
  rw [h.board.isSome_get?]
  split
  · exact ⟨{ h with board := h.board.recode id text text' }, rfl⟩
  · exact ⟨h, rfl⟩

theorem settledTo {s s' : Board} (same : s.SameButCodes s') :
    (e.settledTo s).SameButTexts (f.settledTo s') :=
  { h with board := same, stale := rfl }

theorem place (kind : Kind) (position : Point) :
    (e.place kind position).1.SameButTexts (f.place kind position).1 ∧
      (e.place kind position).2 = (f.place kind position).2 :=
  ⟨{ h with board := h.board.push _, stale := rfl }, h.board.size_eq⟩

theorem press (button : Button) (position : Point) :
    (e.press button position).1.SameButTexts (f.press button position).1 ∧
      (e.press button position).2 = (f.press button position).2 := by
  cases button with
  | middle | other => exact ⟨h, rfl⟩
  | right =>
    obtain ⟨placed, named⟩ := h.place f.selected position
    rw [Editor.press, Editor.press, h.selected]
    exact ⟨placed, congrArg some named⟩
  | left =>
    unfold Editor.press
    dsimp only
    rw [h.hand, h.board.pick?_eq]
    split
    · exact ⟨h, rfl⟩
    · split
      · exact ⟨h, rfl⟩
      · exact ⟨{ h with hand := rfl }, rfl⟩

theorem drag (position : Point) : (e.drag position).SameButTexts (f.drag position) := by
  unfold Editor.drag
  rw [h.hand]
  split
  · exact { h with hand := rfl }
  · rename_i hand id delta _
    have held : ({ e with hand } : Editor).SameButTexts { f with hand } := { h with hand := rfl }
    exact held.move id delta

theorem exists_settle : ∃ s s' report, e.settle = .ok (e.settledTo s, report) ∧
    f.settle = .ok (f.settledTo s', report) ∧ s.SameButCodes s' := by
  obtain ⟨s, report, settled, done⟩ := e.exists_settle
  obtain ⟨s', settled', same⟩ := h.board.settle settled
  rw [h.range] at settled'
  exact ⟨s, s', report, done, settle_eq_ok settled', same⟩

theorem exists_release (button : Button) (position : Point) : ∃ e' f' report,
    e.release button position = .ok (e', report) ∧ f.release button position = .ok (f', report) ∧
      e'.SameButTexts f' := by
  cases button with
  | right | middle | other => exact ⟨e, f, none, rfl, rfl, h⟩
  | left =>
    have let_go : ({ e.drag position with hand := .empty } : Editor).SameButTexts
        { f.drag position with hand := .empty } := { h.drag position with hand := rfl }
    obtain ⟨s, s', report, settled, settled', same⟩ := let_go.exists_settle
    exact ⟨_, _, some report, release_eq_ok settled, release_eq_ok settled',
      let_go.settledTo same⟩

theorem exists_refresh : ∃ s s', e.refresh = .ok (e.settledTo s) ∧
    f.refresh = .ok (f.settledTo s') ∧ s.SameButCodes s' := by
  cases mark : f.stale with
  | false =>
    have mark' := h.stale.trans mark
    refine ⟨e.board, f.board, ?_, ?_, h.board⟩
    · rw [Editor.refresh, mark', settledTo_self mark']
      rfl
    · rw [Editor.refresh, mark, settledTo_self mark]
      rfl
  | true =>
    obtain ⟨s, s', report, done, done', same⟩ := h.exists_settle
    refine ⟨s, s', ?_, ?_, same⟩
    · rw [Editor.refresh, h.stale, mark, done]
      rfl
    · rw [Editor.refresh, mark, done']
      rfl

/-- **Where the board is stale it is settled first, and then there is a program to be read
off both boards or off none.** -/
theorem exists_reading (he : e.board.Reachable) (hf : f.board.Reachable) :
    ∃ s s' program program', e.refresh = .ok (e.settledTo s) ∧ f.refresh = .ok (f.settledTo s') ∧
      s.program? = .ok program ∧ s'.program? = .ok program' ∧
      program.isSome = program'.isSome ∧ (e.settledTo s).SameButTexts (f.settledTo s') := by
  obtain ⟨s, s', refreshed, refreshed', same⟩ := h.exists_refresh
  obtain ⟨program, program', found, found', both⟩ :=
    same.exists_program? (reachable_of_refresh he refreshed) (reachable_of_refresh hf refreshed')
  exact ⟨s, s', program, program', refreshed, refreshed', found, found', both, h.settledTo same⟩

end SameButTexts

end Editor

namespace Workspace

variable {σ τ : Type} {w : Workspace σ} {v : Workspace τ} {action action' : Action}
  {actions actions' : List Action}

theorem commit_sameButTexts (h : w.editor.SameButTexts v.editor) (number : Int)
    (text text' : String) :
    (w.commit number text).1.editor.SameButTexts (v.commit number text').1.editor ∧
      (w.commit number text).2 = (v.commit number text').2 := by
  unfold commit
  cases BlockId.ofInt? number with
  | none => exact ⟨h, rfl⟩
  | some id => exact h.edit id text text'

theorem choose_sameButTexts (h : w.editor.SameButTexts v.editor) (name : String) :
    (w.choose name).1.editor.SameButTexts (v.choose name).1.editor ∧
      (w.choose name).2 = (v.choose name).2 := by
  unfold choose
  cases Kind.ofLabel? name with
  | none => exact ⟨h, rfl⟩
  | some kind => exact ⟨{ h with selected := rfl }, rfl⟩

/-- **One action** leads from editors that are the same but for texts to such editors, with
answers that are the same but for texts, whatever the runners are. -/
theorem exists_perform_sameButTexts (h : w.editor.SameButTexts v.editor)
    (hw : w.editor.board.Reachable) (hv : v.editor.board.Reachable)
    (same : action.SameButTexts action') (runner : Runner σ) (runner' : Runner τ) :
    ∃ next reply next' reply', w.perform runner action = .ok (next, reply) ∧
      v.perform runner' action' = .ok (next', reply') ∧ reply.SameButTexts reply' ∧
      next.editor.SameButTexts next'.editor := by
  -- these come up twice, with the same text in both sessions and with two texts
  have edits (id : BlockId) (text text' : String) : ∃ next reply next' reply',
      w.perform runner (.edit id text) = .ok (next, reply) ∧
        v.perform runner' (.edit id text') = .ok (next', reply') ∧ reply.SameButTexts reply' ∧
        next.editor.SameButTexts next'.editor := by
    obtain ⟨edited, known⟩ := h.edit id text text'
    exact ⟨_, _, _, _, rfl, rfl, known ▸ .same _, edited⟩
  have commits (number : Int) (text text' : String) : ∃ next reply next' reply',
      w.perform runner (.commit number text) = .ok (next, reply) ∧
        v.perform runner' (.commit number text') = .ok (next', reply') ∧
        reply.SameButTexts reply' ∧ next.editor.SameButTexts next'.editor := by
    obtain ⟨edited, known⟩ := commit_sameButTexts h number text text'
    exact ⟨_, _, _, _, rfl, rfl, known ▸ .same _, edited⟩
  obtain ⟨s, s', program, program', refreshed, refreshed', found, found', both, read⟩ :=
    h.exists_reading hw hv
  cases same with
  | edit id text text' => exact edits id text text'
  | commit number text text' => exact commits number text text'
  | same action =>
    cases action with
    | edit id text => exact edits id text text
    | commit number text => exact commits number text text
    | place kind position =>
      obtain ⟨placed, -⟩ := h.place kind position
      exact ⟨_, _, _, _, rfl, rfl, h.board.size_eq ▸ .same _, placed⟩
    | move id delta => exact ⟨_, _, _, _, rfl, rfl, .same _, h.move id delta⟩
    | choose name =>
      obtain ⟨chosen, known⟩ := choose_sameButTexts h name
      exact ⟨_, _, _, _, rfl, rfl, known ▸ .same _, chosen⟩
    | select kind => exact ⟨_, _, _, _, rfl, rfl, .same _, { h with selected := rfl }⟩
    | press button position =>
      obtain ⟨pressed, touched⟩ := h.press button position
      exact ⟨_, _, _, _, rfl, rfl, touched ▸ .same _, pressed⟩
    | drag position => exact ⟨_, _, _, _, rfl, rfl, .same _, h.drag position⟩
    | release button position =>
      obtain ⟨e', f', report, released, released', same⟩ := h.exists_release button position
      rw [perform, perform, released, released']
      exact ⟨_, _, _, _, rfl, rfl, .same _, same⟩
    | settle =>
      obtain ⟨s, s', report, settled, settled', same⟩ := h.exists_settle
      rw [perform, perform, settled, settled']
      exact ⟨_, _, _, _, rfl, rfl, .same _, h.settledTo same⟩
    | generate =>
      rw [perform, perform, Editor.generate_eq refreshed, Editor.generate_eq refreshed', found,
        found']
      have remembered : (program.or w.editor.program).isSome
          = (program'.or v.editor.program).isSome := by
        rw [Option.isSome_or, Option.isSome_or, both, h.program]
      exact ⟨_, _, _, _, rfl, rfl, .generated both, { read with program := remembered }⟩
    | execute =>
      rw [perform, perform, Editor.run_eq refreshed, Editor.run_eq refreshed', found, found']
      cases program <;> cases program' <;> cases both
      · exact ⟨_, _, _, _, rfl, rfl, .same _, read⟩
      · exact ⟨_, _, _, _, rfl, rfl, .executed rfl, { read with program := rfl, outcome := rfl }⟩
    | run =>
      rw [perform, perform, Workspace.run, Workspace.run, Editor.run_eq refreshed,
        Editor.run_eq refreshed', found, found']
      cases program <;> cases program' <;> cases both
      · exact ⟨_, _, _, _, rfl, rfl, .ran .., read⟩
      · exact ⟨_, _, _, _, rfl, rfl, .ran .., { read with program := rfl, outcome := rfl }⟩

/-- **A whole session** leads from editors that are the same but for texts to such
editors. -/
theorem exists_performAll_sameButTexts (h : w.editor.SameButTexts v.editor)
    (hw : w.editor.board.Reachable) (hv : v.editor.board.Reachable)
    (same : List.Forall₂ Action.SameButTexts actions actions') (runner : Runner σ)
    (runner' : Runner τ) :
    ∃ next next', w.performAll runner actions = .ok next ∧
      v.performAll runner' actions' = .ok next' ∧ next.editor.SameButTexts next'.editor ∧
      next.editor.board.Reachable ∧ next'.editor.board.Reachable := by
  induction same generalizing w v with
  | nil => exact ⟨w, v, rfl, rfl, h, hw, hv⟩
  | cons first _ ih =>
    obtain ⟨m, reply, m', reply', run, run', -, h⟩ :=
      exists_perform_sameButTexts h hw hv first runner runner'
    obtain ⟨next, next', rest, rest', kept⟩ :=
      ih h ((undergoes_perform run).reachable hw) ((undergoes_perform run').reachable hv)
    exact ⟨next, next', performAll_cons.mpr ⟨m, reply, run, rest⟩,
      performAll_cons.mpr ⟨m', reply', run', rest'⟩, kept⟩

/-- **Texts have no part in layout or links.** Let two sessions have the same actions but
for the texts that are given to blocks, with the same range and with any two runners. After
each step, that is after the actions so far, the editors are the same but for texts: the
blocks have the same kinds, points and links, the same blocks are heads, the same is in the
hand, and the same kind is selected. To any next action, which may again differ in its text,
both answer the same but for texts: the reports are the same, and there is a program in the
one exactly if there is one in the other, to be generated or to be run. And settling the
board commutes with giving a block a text, with the same report. -/
theorem texts_have_no_part (runner : Runner σ) (runner' : Runner τ) (range : Float32)
    (memory : σ) (memory' : τ) (same : List.Forall₂ Action.SameButTexts actions actions') :
    ∃ w v, (new range memory).performAll runner actions = .ok w ∧
      (new range memory').performAll runner' actions' = .ok v ∧
      w.editor.SameButTexts v.editor ∧ w.editor.board.heads = v.editor.board.heads ∧
      w.editor.offer?.isSome = v.editor.offer?.isSome ∧
      (∀ action action', action.SameButTexts action' → ∃ next reply next' reply',
        w.perform runner action = .ok (next, reply) ∧
          v.perform runner' action' = .ok (next', reply') ∧ reply.SameButTexts reply' ∧
          next.editor.SameButTexts next'.editor) ∧
      ∀ id text, ∃ settled report, w.editor.settle = .ok (settled, report) ∧
        (w.editor.edit id text).1.settle = .ok ((settled.edit id text).1, report) := by
  have start : (new range memory).editor.SameButTexts (new range memory').editor :=
    ⟨rfl, rfl, rfl, rfl, rfl, rfl, rfl⟩
  obtain ⟨w, v, run, run', h, hw, hv⟩ :=
    exists_performAll_sameButTexts start .empty .empty same runner runner'
  obtain ⟨s, s', program, program', refreshed, refreshed', found, found', both, -⟩ :=
    h.exists_reading hw hv
  refine ⟨w, v, run, run', h, h.board.heads_eq, ?_, fun action action' same =>
    exists_perform_sameButTexts h hw hv same runner runner', fun id text => ?_⟩
  · rw [Editor.offer?_eq refreshed found, Editor.offer?_eq refreshed' found', both]
  · obtain ⟨board, report, -, settled⟩ := w.editor.exists_settle
    refine ⟨_, report, settled, ?_⟩
    rw [Editor.settle_edit, settled]
    rfl

/-- The two calls of `pairOfCalls`, with other texts. -/
def pairReworded : List Action :=
  [.place .call .origin, .place .call ⟨0, 50⟩, .edit 0 "", .commit 1 "while True:
  x"]

/-- Whatever the calls say, they are a program, and settling it makes the one link. -/
theorem texts_have_no_part_pairOfCalls : ∃ w v next next' reply,
    (new standardRange ()).performAll .echo pairOfCalls = .ok w ∧
    (new standardRange [.failure "" "no"]).performAll .scripted pairReworded = .ok v ∧
    w.editor.SameButTexts v.editor ∧
    w.perform .echo .settle = .ok (next, reply) ∧ v.perform .scripted .settle = .ok (next', reply) ∧
    reply = .settled (some ⟨1, 1, 0⟩) ∧ v.editor.offer?.isSome = true := by
  have same : List.Forall₂ Action.SameButTexts pairOfCalls pairReworded :=
    .cons (.same _) (.cons (.same _) (.cons (.edit ..) (.cons (.commit ..) .nil)))
  obtain ⟨w, v, run, run', h, -, offers, step, -⟩ :=
    texts_have_no_part .echo .scripted standardRange () [.failure "" "no"] same
  obtain ⟨next, reply, next', reply', settled, settled', answers, -⟩ :=
    step .settle .settle (.same _)
  have answer : ((new standardRange ()).performAll .echo pairOfCalls).toOption.any (fun w =>
      w.editor.offer?.isSome && (w.perform .echo .settle).toOption.any fun done =>
        decide (done.2 = .settled (some ⟨1, 1, 0⟩))) = true := by
    decide +kernel
  rw [run] at answer
  obtain ⟨there, report⟩ := (Bool.and_eq_true ..).mp answer
  rw [settled] at report
  obtain rfl := of_decide_eq_true report
  cases answers
  exact ⟨w, v, next, next', _, run, run', h, settled, settled', rfl, offers.symm.trans there⟩

end Workspace

end SnapBlocks
