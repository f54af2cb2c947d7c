import SnapBlocks.Proofs.Sessions

/-!
# Programs are read off settled boards

A program is read off links, and links are only right as long as the blocks lie where the
last settling has left them. The editor keeps a mark for this, which placing and moving
blocks put and settling takes away, and settles a marked board before it reads a program.
Giving a block a text does not put the mark: no link depends on a text.

So the board that a program is read off is, texts apart, always the one that the last
settling has left (`FreshlySettled`), and a program read a second time is the same again,
as nothing has been done to the board in between. Only if the board has been settled once
more in between, may another program come out: a settling that makes no link in its first
round fits the nests and stops there, and the next one may find a block near the new foot
of a bar (`strayedBody`).
-/

namespace SnapBlocks

variable {b c s board : Board} {range : Float32} {done : List Deed}

/-! ## What the last settling has left -/

/-- **The boards are the same but for the texts of their blocks.** -/
def Board.SameButCodes (b c : Board) : Prop := b.map (·.recode "") = c.map (·.recode "")

theorem Board.sameButCodes_recode (b : Board) (id : BlockId) (text : String) :
    b.SameButCodes (b.modify id (·.recode text)) := by
  refine ext_get? fun other => ?_
  rw [get?_map, get?_map, get?_modify]
  split
  · rw [Option.map_map]
    rfl
  · rfl

/-- **The board that the last of the deeds has left, which was a settling**; if nothing has
been done yet it is the empty board of a new session. -/
inductive LastSettled (range : Float32) : List Deed → Board → Prop
  /-- Nothing has been done. -/
  | never : LastSettled range [] .empty
  /-- The last deed was a settling. -/
  | settled {done : List Deed} {b s : Board} {report : Report} :
      done.foldlM (Deed.act range) .empty = .ok b → b.settle range = .ok (s, report) →
      LastSettled range (done ++ [.settle]) s

/-- **After the deeds the board is, texts apart, the one that the last settling among them
has left**: no block has been placed or moved after it, or none at all. -/
def FreshlySettled (range : Float32) (done : List Deed) (board : Board) : Prop :=
  ∃ earlier later settled, done = earlier ++ later ∧ LastSettled range earlier settled ∧
    (∀ deed ∈ later, ∃ id text, deed = .recode id text) ∧ settled.SameButCodes board

/-- **Without a mark on it a board is freshly settled.** -/
theorem freshlySettled_of_mark (run : done.foldlM (Deed.act range) .empty = .ok board)
    (mark : done.foldl Deed.mark false = false) : FreshlySettled range done board := by
  induction done using List.reverseRecOn generalizing board with
  | nil =>
    cases run
    exact ⟨[], [], .empty, rfl, .never, nofun, rfl⟩
  | append_singleton done deed ih =>
    rw [List.foldlM_append] at run
    obtain ⟨b, before, run⟩ := bind_eq_ok run
    rw [List.foldl_append] at mark
    cases deed with
    | place => cases mark
    | move => cases mark
    | recode id text =>
      cases run
      obtain ⟨earlier, later, settled, rfl, last, texts, same⟩ := ih before mark
      refine ⟨earlier, later ++ [.recode id text], settled, List.append_assoc .., last, ?_,
        same.trans (b.sameButCodes_recode id text)⟩
      intro deed mem
      rcases List.mem_append.mp mem with mem | mem
      · exact texts deed mem
      · exact ⟨id, text, List.mem_singleton.mp mem⟩
    | settle =>
      obtain ⟨s, act, rest⟩ := bind_eq_ok run
      cases rest
      obtain ⟨⟨s, report⟩, settles, rfl⟩ := map_eq_ok act
      exact ⟨done ++ [.settle], [], s, (List.append_nil _).symm, .settled before settles, nofun,
        rfl⟩

/-- Settling over and over leaves no mark. -/
theorem foldl_mark_of_settles (settles : ∀ deed ∈ done, deed = .settle) :
    done.foldl Deed.mark false = false := by
  induction done with
  | nil => rfl
  | cons deed done ih =>
    obtain ⟨rfl, rest⟩ := List.forall_mem_cons.mp settles
    exact ih rest

/-- A board that settles to itself does so over and over. -/
theorem foldlM_act_of_settles {report : Report} (settled : b.settle range = .ok (b, report))
    (settles : ∀ deed ∈ done, deed = .settle) : done.foldlM (Deed.act range) b = .ok b := by
  induction done with
  | nil => rfl
  | cons deed done ih =>
    obtain ⟨rfl, rest⟩ := List.forall_mem_cons.mp settles
    rw [List.foldlM_cons, Deed.act, settled]
    exact ih rest

namespace Editor

variable {e : Editor}

/-- Refreshing takes the mark away. -/
theorem foldl_mark_refreshing (e : Editor) : e.refreshing.foldl Deed.mark e.stale = false := by
  cases mark : e.stale with
  | false => rw [refreshing, mark]; rfl
  | true => rw [refreshing, mark]; rfl

/-- **Without a mark, generating a program changes no block.** -/
theorem generate_of_fresh {program : Option String} (fresh : e.stale = false)
    (found : e.board.program? = .ok program) :
    e.generate = .ok ({ e with program := program.or e.program }, program) := by
  have refreshed : e.refresh = .ok (e.settledTo e.board) := by
    rw [refresh, fresh, settledTo_self fresh]
    rfl
  rw [generate_eq refreshed, found, settledTo_self fresh]
  rfl

end Editor

namespace Workspace

variable {σ : Type} {runner : Runner σ} {w next : Workspace σ} {action : Action} {reply : Reply}

/-- An action that reads a program leaves the board that it has been read off, without a
mark. -/
theorem board_of_reading (reads : w.editor.deeds action = w.editor.refreshing)
    (refreshed : w.editor.refresh = .ok (w.editor.settledTo board))
    (run : w.perform runner action = .ok (next, reply)) :
    next.editor.board = board ∧ next.editor.stale = false := by
  have undergoes := undergoes_perform run
  rw [reads] at undergoes
  obtain ⟨board', refreshed', undergoes'⟩ := w.editor.exists_refresh
  have same := congrArg Editor.board (Except.ok.inj (refreshed.symm.trans refreshed'))
  have left := Except.ok.inj (undergoes.board.symm.trans undergoes'.board)
  exact ⟨left.trans same.symm, undergoes.stale.trans w.editor.foldl_mark_refreshing⟩

/-- **Reading a program again**, while nothing has been done but to settle the board: no
block changes, and the program is that of the board settled again. -/
theorem exists_read_again {program : Option String} (reachable : w.editor.board.Reachable)
    (fresh : w.editor.stale = false) (found : w.editor.board.program? = .ok program)
    (between : List Action) : ∃ later, w.performAll runner between = .ok later ∧
      ((∀ deed ∈ w.deeds runner between, deed = .settle) →
        ∃ again, later.editor.board.program? = .ok again ∧
          later.editor.generate
            = .ok ({ later.editor with program := again.or later.editor.program }, again) ∧
          (w.deeds runner between).foldlM (Deed.act w.editor.range) w.editor.board
            = .ok later.editor.board ∧
          ((w.deeds runner between = [] ∨
            ∃ report, w.editor.board.settle w.editor.range = .ok (w.editor.board, report)) →
              again = program)) := by
  obtain ⟨later, run, reachable'⟩ := exists_performAll runner reachable between
  obtain ⟨again, found'⟩ := reachable'.exists_program?
  have undergoes := undergoes_performAll run
  refine ⟨later, run, fun settles => ⟨again, found', ?_, undergoes.board, fun unchanged => ?_⟩⟩
  · refine Editor.generate_of_fresh ?_ found'
    rw [undergoes.stale, fresh, foldl_mark_of_settles settles]
  · have left := undergoes.board
    have same : w.editor.board = later.editor.board := by
      rcases unchanged with nothing | ⟨report, settled⟩
      · rw [nothing] at left
        exact Except.ok.inj left
      · rw [foldlM_act_of_settles settled settles] at left
        exact Except.ok.inj left
    rw [← same, found] at found'
    exact (Except.ok.inj found').symm

/-- **A program is read off the board that the last settling has left, and is the same when
it is read again.** In a session nothing happens to the board but the deeds of its actions.
After any actions the editor, asked for a program, answers with that of its board, refreshed
if need be. Texts apart, this is the board that the last settling has left; no block has
been placed or moved after it. Asking for the program, whether to run it or not, leaves
this board as it is.

Let no block be placed, moved or given a text after that. The next time a program is read
no block changes. It is the same program if the board has not been settled again, or if
settling it changes nothing; in general it is that of the board settled again. -/
theorem generate_reads_settled (runner : Runner σ) (range : Float32) (memory : σ)
    (actions : List Action) :
    ∃ w board program, (new range memory).performAll runner actions = .ok w ∧
      ((new range memory).deeds runner actions).foldlM (Deed.act range) .empty
        = .ok w.editor.board ∧
      w.editor.refresh = .ok (w.editor.settledTo board) ∧
      board.program? = .ok program ∧
      w.editor.generate = .ok
        ({ w.editor.settledTo board with program := program.or w.editor.program }, program) ∧
      FreshlySettled range ((new range memory).deeds runner actions ++ w.editor.refreshing) board ∧
      ∀ action ∈ [Action.generate, .execute, .run], ∃ next reply,
        w.perform runner action = .ok (next, reply) ∧ next.editor.board = board ∧
        ∀ between, ∃ later, next.performAll runner between = .ok later ∧
          ((∀ deed ∈ next.deeds runner between, deed = .settle) →
            ∃ again, later.editor.board.program? = .ok again ∧
              later.editor.generate
                = .ok ({ later.editor with program := again.or later.editor.program }, again) ∧
              (next.deeds runner between).foldlM (Deed.act range) board = .ok later.editor.board ∧
              ((next.deeds runner between = [] ∨
                ∃ report, board.settle range = .ok (board, report)) → again = program)) := by
  obtain ⟨w, run, reachable⟩ := exists_performAll runner (w := new range memory) .empty actions
  have undergoes := undergoes_performAll run
  obtain ⟨board, refreshed, refreshes⟩ := w.editor.exists_refresh
  have board_reachable : board.Reachable := refreshes.reachable reachable
  obtain ⟨program, found⟩ := board_reachable.exists_program?
  have before := undergoes.trans refreshes
  refine ⟨w, board, program, run, undergoes.board, refreshed, found, ?_,
    freshlySettled_of_mark before.board before.stale.symm, fun action reading => ?_⟩
  · rw [Editor.generate_eq refreshed, found]
    rfl
  have reads : w.editor.deeds action = w.editor.refreshing := by
    simp only [List.mem_cons, List.not_mem_nil, or_false] at reading
    obtain rfl | rfl | rfl := reading <;> rfl
  obtain ⟨next, reply, performed⟩ := exists_perform runner reachable action
  obtain ⟨rfl, fresh⟩ := board_of_reading reads refreshed performed
  obtain rfl : next.editor.range = range :=
    (undergoes_perform performed).range.trans undergoes.range
  exact ⟨next, reply, performed, rfl, exists_read_again board_reachable fresh found⟩

/-- Two calls one under the other, with their texts. -/
def pairOfCalls : List Action :=
  [.place .call .origin, .place .call ⟨0, 50⟩, .edit 0 "a", .commit 1 "b"]

/-- Choosing a kind and pressing a button that does nothing do nothing to the board: the
program of the two calls comes out again. -/
theorem generate_reads_settled_pairOfCalls : ∃ w next reply later last,
    (new standardRange ()).performAll .echo pairOfCalls = .ok w ∧
    w.perform .echo .generate = .ok (next, reply) ∧
    next.performAll .echo [.select .call, .press .middle .origin] = .ok later ∧
    later.editor.generate = .ok (last, some "a()\nb()\n") ∧
    later.editor.board = next.editor.board := by
  obtain ⟨w, board, program, run, -, refreshed, found, generated, -, reading⟩ :=
    generate_reads_settled .echo standardRange () pairOfCalls
  obtain ⟨next, reply, performed, rfl, reads_again⟩ := reading .generate (by decide)
  obtain ⟨later, rest, again⟩ := reads_again [.select .call, .press .middle .origin]
  obtain ⟨_, -, generated', left, same⟩ := again nofun
  obtain rfl := same (.inl rfl)
  have text : ((new standardRange ()).performAll .echo pairOfCalls).toOption.any (fun w =>
      w.editor.generate.toOption.any fun answer =>
        decide (answer.2 = some "a()\nb()\n")) = true := by
    decide +kernel
  rw [run] at text
  change w.editor.generate.toOption.any _ = true at text
  rw [generated] at text
  obtain rfl := of_decide_eq_true text
  exact ⟨w, next, reply, later, _, run, performed, rest, generated', (Except.ok.inj left).symm⟩

/-- A call is in the body of a conditional when a program is generated, and is then drawn
out of it, to where the foot of the conditional is going to be. -/
def strayedBody : List Action :=
  [.place (.nest .conditional) .origin, .place .call ⟨15, 50⟩, .generate, .move 1 ⟨-16, 67⟩]

/-- **Settling the board in between may change the program.** The first program is read
when the call lies below the foot of a bar that is still too long; settling fits the bar
but does not look for links again. The next settling does, and finds one. -/
theorem not_forall_generate_again : ¬ ∀ (actions between : List Action)
    (w next later last : Workspace Unit) (program again : Option String),
    (new standardRange ()).performAll .echo actions = .ok w →
    w.perform .echo .generate = .ok (next, .generated program) →
    next.performAll .echo between = .ok later →
    (∀ deed ∈ next.deeds .echo between, deed = .settle) →
    later.perform .echo .generate = .ok (last, .generated again) →
    again = program ∧ last.editor.board = later.editor.board := by
  intro always
  have reads : ((new standardRange ()).performAll .echo strayedBody).toOption.any (fun w =>
      (w.perform .echo .generate).toOption.any fun (next, reply) =>
        decide (reply = .generated none) &&
          (next.performAll .echo [.settle]).toOption.any fun later =>
            (later.perform .echo .generate).toOption.any fun (_, reply) =>
              decide (reply = .generated (some "if True:\n    pass\n()\n"))) = true := by
    decide +kernel
  obtain ⟨w, run, reads⟩ := exists_ok_of_any reads
  obtain ⟨⟨next, _⟩, first, reads⟩ := exists_ok_of_any reads
  obtain ⟨none_read, reads⟩ := (Bool.and_eq_true ..).mp reads
  obtain rfl := of_decide_eq_true none_read
  obtain ⟨later, settled, reads⟩ := exists_ok_of_any reads
  obtain ⟨⟨last, _⟩, second, some_read⟩ := exists_ok_of_any reads
  obtain rfl := of_decide_eq_true some_read
  have once : next.deeds .echo [.settle] = [.settle] := by
    obtain ⟨m, reply, settles, -⟩ := performAll_cons.mp settled
    rw [deeds, chronicle, settles]
    rfl
  have only : ∀ deed ∈ next.deeds .echo [.settle], deed = .settle := by
    rw [once]
    exact fun _ => List.mem_singleton.mp
  cases (always _ _ _ _ _ _ _ _ run first settled only second).1

end Workspace

end SnapBlocks
