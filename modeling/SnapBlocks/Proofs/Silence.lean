import SnapBlocks.Proofs.Runs

/-!
# An empty answer

The answer to a run is the program that was run, and the empty text if there was none. So
an empty answer is meant to say that nothing was run. It does, unless there is an empty
program.

A statement writes a line, so a program is empty only if its head is an expression with an
empty text; and an expression is the only head of a board only if it is the only block
(`Board.Wordless`). Such is every board with one freshly placed expression and nothing
else. Its program is empty, is handed to the runner all the same, and the answer does not
tell (`Workspace.run_silent_iff`).
-/

namespace SnapBlocks

namespace Board

variable {b c : Board} {id : BlockId} {block : Block}

/-- **There is one block, an expression with an empty text.** -/
def Wordless (b : Board) : Prop :=
  b.size = 1 ∧ (b.get? 0).map Block.meaning = some (.expression, "")

theorem SameMeanings.wordless_iff (h : b.SameMeanings c) : b.Wordless ↔ c.Wordless := by
  rw [Wordless, Wordless, h.size_eq, h 0]

/-- The outline of a statement has a line at least. -/
theorem outline_ne_empty (hb : b.Forest) (found : b.get? id = some block)
    (not_inline : block.kind.isInline = false) : b.outline id ≠ "" := by
  rw [outline, hb.subtree_eq found, passage_cons found not_inline, lines]
  simp [String.append_eq_empty_iff]

/-- A block that is alone on the board is its only head. -/
theorem Forest.head?_of_size_eq_one (hb : b.Forest) (alone : b.size = 1) : b.head? = some 0 := by
  have zero : ∀ id < b.size, id = 0 := fun id lt => Nat.lt_one_iff.mp (alone ▸ lt)
  obtain ⟨head, mem, -⟩ := hb.exists_head (alone ▸ Nat.one_pos)
  obtain rfl := zero head (mem_heads.mp mem).1
  have heads : b.heads = [0] := by
    rw [heads, ids, alone] at mem ⊢
    exact List.filter_eq_self.mpr fun id id_mem => by
      obtain rfl := Nat.lt_one_iff.mp (List.mem_range.mp id_mem)
      exact (List.mem_filter.mp mem).2
  rw [head?, heads]

/-- **Only an expression with an empty text, and alone on the board, is an empty program.** -/
theorem Reachable.program?_eq_empty_iff (h : b.Reachable) :
    b.program? = .ok (some "") ↔ b.Wordless := by
  have hb := h.forest
  have hw := h.wellHeld
  rw [program?_eq hb hw]
  constructor
  · intro empty
    obtain ⟨head, head_eq, script⟩ := Option.map_eq_some_iff.mp (Except.ok.inj empty)
    have only := heads_eq_of_head? head_eq
    have head_lt := (mem_heads.mp (only ▸ List.mem_singleton_self head)).1
    obtain ⟨block, found⟩ := exists_get? head_lt
    rw [script_eq found] at script
    cases is_inline : block.kind.isInline with
    | false =>
      rw [is_inline] at script
      exact absurd script (outline_ne_empty hb found is_inline)
    | true =>
      rw [is_inline] at script
      have alone := size_eq_one hb hw only found is_inline
      obtain rfl : head = 0 := Nat.lt_one_iff.mp (alone ▸ head_lt)
      refine ⟨alone, ?_⟩
      rw [found, Option.map_some, Block.meaning, Kind.isInline_iff.mp is_inline]
      exact congrArg (fun code => some (Kind.expression, code)) script
  · rintro ⟨alone, meaning⟩
    obtain ⟨block, found, meaning⟩ := Option.map_eq_some_iff.mp meaning
    obtain ⟨kind, code⟩ := Prod.mk.inj meaning
    have is_inline := Kind.isInline_iff.mpr kind
    rw [hb.head?_of_size_eq_one alone, Option.map_some, script_eq found, is_inline]
    exact congrArg (fun code => Except.ok (some code)) code

end Board

/-- A refreshed board has the same blocks as before, with the same texts. -/
theorem Editor.sameMeanings_of_refresh {e : Editor} {board : Board}
    (refreshed : e.refresh = .ok (e.settledTo board)) : e.board.SameMeanings board := by
  cases mark : e.stale with
  | false =>
    rw [refresh, mark] at refreshed
    rw [show e.board = board from congrArg Editor.board (Except.ok.inj refreshed)]
    exact fun _ => rfl
  | true =>
    obtain ⟨s, report, settled, done⟩ := e.exists_settle
    rw [refresh, mark, done] at refreshed
    obtain rfl : s = board := congrArg Editor.board (Except.ok.inj refreshed)
    exact (Board.of_settle (Board.stable_sameMeanings e.board e.range)
      e.board.sameMeanings_unlink settled).2

namespace Workspace

variable {σ : Type}

/-- The action answers with what is run. -/
theorem perform_run {runner : Runner σ} {w next : Workspace σ} {text : String}
    (ran : w.run runner = .ok (next, text)) : w.perform runner .run = .ok (next, .ran text) := by
  rw [perform, ran]
  rfl

/-- **An empty answer means that nothing was run, unless the only block is an expression
with an empty text.** Let a runner keep the programs that it is given, and let any actions
have been carried out. A run that follows is answered. Either nothing is handed to the
runner and the answer is empty, or a single program is, and it is the answer. The program
is empty on a wordless board and on no other. So to be empty is the same for an answer as
to follow on nothing, on every board but a wordless one. -/
theorem run_silent_iff (runner : Runner σ) (range : Float32) (memory : σ) (actions : List Action) :
    ∃ w next text handed, (new range (memory, [])).performAll runner.recording actions = .ok w ∧
      w.perform runner.recording .run = .ok (next, .ran text) ∧
      next.memory.2 = w.memory.2 ++ handed ∧
      (handed = [] ∧ text = "" ∨ handed = [text]) ∧
      (handed = [""] ↔ w.editor.board.Wordless) ∧
      ((text = "" ↔ handed = []) ↔ ¬ w.editor.board.Wordless) := by
  obtain ⟨w, run, reachable⟩ :=
    exists_performAll runner.recording (w := new range (memory, [])) .empty actions
  obtain ⟨board, refreshed, undergoes⟩ := w.editor.exists_refresh
  have reachable_board : board.Reachable := undergoes.reachable reachable
  have empty_iff : board.program? = .ok (some "") ↔ w.editor.board.Wordless :=
    reachable_board.program?_eq_empty_iff.trans
      (Editor.sameMeanings_of_refresh refreshed).wordless_iff.symm
  obtain ⟨-, found⟩ | ⟨-, text, found⟩ := reachable_board.program?_cases
  · have worded : ¬ w.editor.board.Wordless := fun wordless => by
      cases found.symm.trans (empty_iff.mpr wordless)
    exact ⟨w, _, "", [], run, perform_run (run_of_none runner.recording refreshed found),
      (List.append_nil _).symm, .inl ⟨rfl, rfl⟩, iff_of_false nofun worded,
      iff_of_true (iff_of_true rfl rfl) worded⟩
  · have empty_text : text = "" ↔ w.editor.board.Wordless := by
      rw [← empty_iff, found, Except.ok.injEq, Option.some.injEq]
    refine ⟨w, _, text, [text], run, perform_run (run_of_some runner.recording refreshed found),
      rfl, .inr rfl, ?_, ?_⟩
    · rw [← empty_text, List.singleton_inj]
    · rw [← empty_text, iff_false_right (List.cons_ne_nil text [])]

/-- **An empty program may be run.** A single expression has been placed and nothing has
been typed into it; the runner is given the empty program, and the answer is empty. -/
theorem not_forall_run_silent : ¬ ∀ (actions : List Action)
    (w next : Workspace (Unit × List String)) (text : String),
    (new standardRange ((), [])).performAll Runner.echo.recording actions = .ok w →
    w.perform Runner.echo.recording .run = .ok (next, .ran text) →
    (text = "" ↔ next.memory.2 = w.memory.2) := by
  intro always
  have reads : ((new standardRange ((), [])).performAll Runner.echo.recording
      [.place .expression .origin]).toOption.any (fun w =>
        (w.perform Runner.echo.recording .run).toOption.any fun (next, reply) =>
          decide (reply = .ran "" ∧ w.memory.2 = [] ∧ next.memory.2 = [""])) = true := by
    decide +kernel
  obtain ⟨w, placed, reads⟩ := exists_ok_of_any reads
  obtain ⟨⟨next, _⟩, ran, reads⟩ := exists_ok_of_any reads
  obtain ⟨rfl, before, after⟩ := of_decide_eq_true reads
  have unchanged := (always _ w next "" placed ran).mp rfl
  rw [before, after] at unchanged
  cases unchanged

end Workspace

end SnapBlocks
