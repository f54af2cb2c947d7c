import SnapBlocks.Proofs.Gestures
import SnapBlocks.Proofs.Painting

/-!
# Every name is that of a block

Blocks are looked up by name: by the names that links give, that the hand keeps, and that
the caller supplies. Where a block is read, `Board.fetch` faults on a name that is not on
the board, and since no session faults (`Workspace.exists_performAll`) no such name is
read. A block that is changed is another matter: `Board.modify` passes over an unknown
name in silence.

This module takes the silence away. In the checked operations, from `Board.amend` up to
`Board.settleChecked`, a block that is changed is looked up first, with a fault if there is
none. They do the same as the operations that are not checked, on every board. The blocks
of a subtree are those that the traversal has found on the board, and a guest is linked to
its host after both have been looked up for the verdict.

Only a text is given to a block by a name that comes from outside. A session asks for the
block first, so nothing happens to any part of the workspace if there is none.
-/

namespace SnapBlocks

namespace Board

variable {b c : Board} {range : Float32} {host guest id member : BlockId} {slot : Slot}

/-! ## Changes that look up what they change -/

/-- **The board with one block changed; a fault if there is no block of this name.** -/
def amend (b : Board) (id : BlockId) (f : Block → Block) : Except Fault Board :=
  (b.fetch id).map fun _ => b.modify id f

theorem amend_of_lt (lt : id < b.size) (f : Block → Block) :
    b.amend id f = .ok (b.modify id f) := by
  obtain ⟨block, found⟩ := exists_get? lt
  rw [amend, fetch_eq_ok_iff.mpr found]
  rfl

/-- Unlike `Board.modify`, it does not pass over an unknown name. -/
theorem amend_of_size_le (le : b.size ≤ id) (f : Block → Block) :
    b.amend id f = .error (.missing b.size id) := by
  rw [amend, fetch_eq_error_iff.mpr ⟨le, rfl⟩]
  rfl

/-- A subtree moved, where every block of it is looked up. -/
def carryChecked (b : Board) (id : BlockId) (delta : Point) : Except Fault Board :=
  if delta.isZero then .ok b
  else (b.subtree id).foldlM (fun board member => board.amend member (·.translate delta)) b

/-- A subtree moved to a point, where every block of it is looked up. -/
def snapChecked (b : Board) (id : BlockId) (target : Point) : Except Fault Board :=
  match b.get? id with
  | none => .ok b
  | some block => do
    let carried ← b.carryChecked id (target - block.start)
    carried.amend id (·.pin target)

/-- A block put into a slot, where both blocks are looked up. -/
def linkChecked (b : Board) (host guest : BlockId) (slot : Slot) : Except Fault Board := do
  let holding ← b.amend host fun block => block.withLinks (block.links.hold guest slot)
  holding.amend guest fun block => block.withLinks (block.links.attachTo host)

/-- What is visited is on the board, whatever the links are. -/
theorem lt_of_mem_visit {fuel : Nat} {seen stack : List BlockId}
    (mem : id ∈ b.visit fuel seen stack) : id < b.size := by
  induction fuel generalizing seen stack with
  | zero => exact absurd mem List.not_mem_nil
  | succ fuel ih =>
    cases stack with
    | nil => exact absurd mem List.not_mem_nil
    | cons top stack =>
      rw [visit] at mem
      split at mem
      · exact ih mem
      · rename_i block found
        split at mem
        · exact ih mem
        · rcases List.mem_cons.mp mem with rfl | mem
          · exact lt_of_get? found
          · exact ih mem

/-- Changing blocks of the board one after another is changing them with a look-up. -/
theorem foldlM_amend {ids : List BlockId} (f : Block → Block) (on : ∀ id ∈ ids, id < b.size) :
    ids.foldlM (fun board id => board.amend id f) b
      = .ok (ids.foldl (fun board id => board.modify id f) b) := by
  induction ids generalizing b with
  | nil => rfl
  | cons id ids ih =>
    obtain ⟨lt, rest⟩ := List.forall_mem_cons.mp on
    rw [List.foldlM_cons, amend_of_lt lt]
    -- no change takes a block off the board, so the rest is still there
    exact ih fun other mem => (size_modify b id f).symm ▸ rest other mem

theorem carryChecked_eq (b : Board) (id : BlockId) (delta : Point) :
    b.carryChecked id delta = .ok (b.carry id delta) := by
  rw [carryChecked, carry]
  split
  · rfl
  · exact foldlM_amend _ fun _ mem => lt_of_mem_visit mem

theorem snapChecked_eq (b : Board) (id : BlockId) (target : Point) :
    b.snapChecked id target = .ok (b.snap id target) := by
  rw [snapChecked, snap]
  cases found : b.get? id with
  | none => rfl
  | some block =>
    dsimp only
    rw [carryChecked_eq]
    refine amend_of_lt ?_ _
    rw [size_carry]
    exact lt_of_get? found

theorem linkChecked_of_lt (host_lt : host < b.size) (guest_lt : guest < b.size) (slot : Slot) :
    b.linkChecked host guest slot = .ok (b.link host guest slot) := by
  rw [linkChecked, amend_of_lt host_lt]
  refine amend_of_lt ?_ _
  rwa [size_modify]

/-- On a board without blocks there is nothing to put into a slot. -/
example : empty.linkChecked 0 1 .next = .error (.missing 0 0) := rfl

/-! ## Settling with every name looked up -/

/-- A trial where what is changed is looked up. -/
def tryOutChecked (range : Float32) (sofar : Board × Nat) (trial : Trial) :
    Except Fault (Board × Nat) := do
  match ← sofar.1.verdict range trial.host trial.guest trial.slot with
  | .refuse _ => return sofar
  | .accept spot =>
    let snapped ← sofar.1.snapChecked trial.guest spot
    let linked ← snapped.linkChecked trial.host trial.guest trial.slot
    return (linked, sofar.2 + 1)

/-- A nest fitted to its body, where what is changed is looked up. -/
def fitChecked (b : Board) (nest : BlockId) : Except Fault Board := do
  let extent ← b.fittingExtent nest
  let block ← b.fetch nest
  let resized ← b.amend nest (·.resize extent)
  match block.links.next with
  | none => return resized
  | some follower => resized.snapChecked follower (block.resize extent).finish

/-- All nests fitted, where what is changed is looked up. -/
def fitAllChecked (b : Board) : Except Fault (Board × Nat) := do
  let order ← b.fittingOrder
  return (← order.foldlM fitChecked b, order.length)

/-- A round of matching, where what is changed is looked up. -/
def roundChecked (b : Board) (range : Float32) : Except Fault (Board × Nat) :=
  b.trials.foldlM (tryOutChecked range) (b, 0)

/-- Further rounds, where what is changed is looked up. -/
def moreRoundsChecked (range : Float32) :
    Nat → Board → Nat → Nat → Except Fault (Board × Nat × Nat)
  | 0, b, links, fitted => .ok (b, links, fitted)
  | limit + 1, b, links, fitted => do
    let (matched, added) ← b.roundChecked range
    if added = 0 then return (matched, links, fitted)
    else
      let (fit, count) ← matched.fitAllChecked
      moreRoundsChecked range limit fit (links + added) count

/-- **The settled board, where every block that is changed is looked up.** -/
def settleChecked (b : Board) (range : Float32) : Except Fault (Board × Report) := do
  let (matched, links) ← b.unlink.roundChecked range
  let (fit, fitted) ← matched.fitAllChecked
  let (settled, links, fitted) ←
    if links = 0 then pure (fit, links, fitted)
    else moreRoundsChecked range b.size fit links fitted
  return (settled, ⟨links, settled.heads.length, fitted⟩)

/-- A guest that is accepted, and its host, have been looked up for the verdict. -/
theorem tryOutChecked_eq (range : Float32) : tryOutChecked range = tryOut range := by
  funext sofar trial
  rw [tryOutChecked, tryOut, attempt]
  cases judged : sofar.1.verdict range trial.host trial.guest trial.slot with
  | error fault => rfl
  | ok answer =>
    cases answer with
    | refuse reason => rfl
    | accept spot =>
      have fits := verdict_eq_accept_iff.mp judged
      have snapped_size := size_snap sofar.1 trial.guest spot
      have linked := linkChecked_of_lt (snapped_size ▸ fits.host_lt) (snapped_size ▸ fits.guest_lt)
        trial.slot
      show (sofar.1.snapChecked trial.guest spot >>= _) = _
      rw [snapChecked_eq]
      show (linkChecked _ _ _ _ >>= _) = _
      rw [linked]
      rfl

/-- A nest is looked up before it is fitted, and what follows it is only moved. -/
theorem fitChecked_eq : fitChecked = fit := by
  funext b nest
  rw [fitChecked, fit]
  cases b.fittingExtent nest with
  | error fault => rfl
  | ok extent =>
    cases found : b.fetch nest with
    | error fault => rfl
    | ok block =>
      dsimp only [bind, Except.bind]
      rw [amend_of_lt (lt_of_get? (fetch_eq_ok_iff.mp found))]
      dsimp only
      cases block.links.next with
      | none => rfl
      | some follower => exact snapChecked_eq ..

theorem fitAllChecked_eq : fitAllChecked = fitAll := by
  funext b
  rw [fitAllChecked, fitAll, fitChecked_eq]

theorem roundChecked_eq (b : Board) (range : Float32) : b.roundChecked range = b.round range := by
  rw [roundChecked, tryOutChecked_eq, round_eq_trials]

theorem moreRoundsChecked_eq (range : Float32) (limit : Nat) (b : Board) (links fitted : Nat) :
    moreRoundsChecked range limit b links fitted = moreRounds range limit b links fitted := by
  induction limit generalizing b links fitted with
  | zero => rfl
  | succ limit ih =>
    rw [moreRoundsChecked, moreRounds, roundChecked_eq, fitAllChecked_eq]
    simp only [ih]

/-- **Settling changes no block that it would not find**, on any board. -/
theorem settleChecked_eq (b : Board) (range : Float32) :
    b.settleChecked range = b.settle range := by
  rw [settleChecked, settle, roundChecked_eq, fitAllChecked_eq]
  simp only [moreRoundsChecked_eq]

end Board

/-! ## Sessions with every name looked up -/

namespace Deed

variable {b : Board} {range : Float32} {done : List Deed}

/-- **The board after a deed, where every block that is changed is looked up.** -/
def actChecked (range : Float32) (b : Board) : Deed → Except Fault Board
  | place kind position => .ok (b.push (.place kind position))
  | move id delta => b.carryChecked id delta
  | recode id text => b.amend id (·.recode text)
  | settle => (b.settleChecked range).map Prod.fst

/-- **It is the board after the deed**, unless a text is given to a block that is not
there. -/
theorem actChecked_eq {deed : Deed} (there : ∀ id text, deed = .recode id text → id < b.size) :
    deed.actChecked range b = deed.act range b := by
  cases deed with
  | place => rfl
  | move id delta => exact b.carryChecked_eq id delta
  | recode id text => exact Board.amend_of_lt (there id text rfl) _
  | settle => exact congrArg (Except.map Prod.fst) (b.settleChecked_eq range)

theorem foldlM_actChecked (there : ∀ id text, .recode id text ∈ done → id < b.size) :
    done.foldlM (actChecked range) b = done.foldlM (act range) b := by
  induction done generalizing b with
  | nil => rfl
  | cons deed done ih =>
    have first : deed.actChecked range b = deed.act range b :=
      actChecked_eq fun id text same => there id text (same ▸ List.mem_cons_self)
    rw [List.foldlM_cons, List.foldlM_cons, first]
    cases acted : deed.act range b with
    | error fault => rfl
    | ok c =>
      -- what is to get a text later is there now, and no deed takes it off the board
      refine ih fun id text mem => ?_
      exact (there id text (List.mem_cons_of_mem _ mem)).trans_le (size_le_of_act acted)

end Deed

namespace Editor

variable {e : Editor} {action : Action} {id : BlockId} {text : String}

theorem lt_of_mem_recoding {other : BlockId} {text' : String}
    (mem : .recode id text ∈ e.recoding other text') : id < e.board.size := by
  unfold recoding at mem
  split at mem
  · rename_i there
    cases List.mem_singleton.mp mem
    exact Board.get?_isSome_iff.mp there
  · cases mem

theorem recode_not_mem_moving {other : BlockId} {delta : Point} :
    .recode id text ∉ e.moving other delta := by
  unfold moving
  split
  · exact fun mem => nomatch List.mem_singleton.mp mem
  · exact List.not_mem_nil

theorem recode_not_mem_dragging {position : Point} : .recode id text ∉ e.dragging position := by
  unfold dragging
  split
  · exact List.not_mem_nil
  · exact recode_not_mem_moving

theorem recode_not_mem_refreshing : .recode id text ∉ e.refreshing := by
  unfold refreshing
  split
  · exact fun mem => nomatch List.mem_singleton.mp mem
  · exact List.not_mem_nil

/-- **No action gives a text to a block that is not there.** -/
theorem lt_of_recode_mem_deeds (mem : .recode id text ∈ e.deeds action) : id < e.board.size := by
  cases action with
  | edit other text' => exact lt_of_mem_recoding mem
  | commit number text' =>
    change _ ∈ (match BlockId.ofInt? number with | none => [] | some id => _) at mem
    cases named : BlockId.ofInt? number with
    | none =>
      rw [named] at mem
      cases mem
    | some other =>
      rw [named] at mem
      exact lt_of_mem_recoding mem
  | place | settle => exact nomatch List.mem_singleton.mp mem
  | choose | select => cases mem
  | move other delta => exact absurd mem recode_not_mem_moving
  | drag position => exact absurd mem recode_not_mem_dragging
  | generate | execute | run => exact absurd mem recode_not_mem_refreshing
  | press button position =>
    cases button with
    | right => exact nomatch List.mem_singleton.mp mem
    | left | middle | other => cases mem
  | release button position =>
    cases button with
    | right | middle | other => cases mem
    | left =>
      rcases List.mem_append.mp mem with mem | mem
      · exact absurd mem recode_not_mem_dragging
      · exact nomatch List.mem_singleton.mp mem

/-- What is in the hand is a block of the board. -/
def HoldsBlock (e : Editor) : Prop :=
  ∀ held, e.hand.held = some held → held.block < e.board.size

/-- **Every name that the editor keeps is that of a block.** -/
structure WellNamed (e : Editor) : Prop where
  /-- What holds a block is a block. -/
  back : ∀ id host, e.board.back? id = some host → host < e.board.size
  /-- What a slot holds is a block. -/
  held : ∀ id slot guest, e.board.held? id slot = some guest → guest < e.board.size
  /-- What is in the hand is a block. -/
  hand : e.HoldsBlock

theorem wellNamed_of_reachable (reachable : e.board.Reachable) (hand : e.HoldsBlock) :
    e.WellNamed where
  back _ _ := reachable.forest.back_lt
  held _ _ _ := reachable.forest.held_lt
  hand := hand

theorem hand_lt_of_drag (h : e.HoldsBlock) (position : Point) :
    ∀ held, (e.drag position).hand.held = some held → held.block < e.board.size := by
  cases in_hand : e.hand.held with
  | none =>
    have free : e.hand.isBusy = false := by rw [Hand.isBusy, in_hand]; rfl
    rw [drag_of_not_isBusy free]
    exact h
  | some held =>
    rw [drag_of_held in_hand]
    intro held' same
    cases same
    exact h held in_hand

theorem hand_lt_of_press (h : e.HoldsBlock) (position : Point) :
    ∀ held, (e.press .left position).1.hand.held = some held → held.block < e.board.size := by
  rw [press]
  by_cases busy : e.hand.isBusy = true
  · rw [if_pos busy]
    exact h
  · rw [if_neg busy]
    cases picked : e.board.pick? position with
    | none => exact h
    | some id =>
      dsimp only
      rw [Hand.grab, if_neg busy]
      intro held same
      cases same
      exact Board.get?_isSome_iff.mp (Board.isSome_of_pick? picked)

end Editor

namespace Workspace

variable {σ : Type} {runner : Runner σ} {w next : Workspace σ} {action : Action}
  {actions : List Action} {reply : Reply}

/-- **What is in the hand is a block, after every action**: only a block that has been
picked gets into it, and no block is taken off the board. -/
theorem holdsBlock_of_perform (h : w.editor.HoldsBlock)
    (run : w.perform runner action = .ok (next, reply)) : next.editor.HoldsBlock := by
  have grows := (undergoes_perform run).size_le
  suffices ∀ held, next.editor.hand.held = some held → held.block < w.editor.board.size from
    fun held same => (this held same).trans_le grows
  cases handless : action.handles with
  | false =>
    rw [hand_of_perform handless run]
    exact h
  | true =>
    cases action with
    | drag position =>
      cases run
      exact Editor.hand_lt_of_drag h position
    | press button position =>
      cases button with
      | right | middle | other => cases handless
      | left =>
        cases run
        exact Editor.hand_lt_of_press h position
    | release button position =>
      cases button with
      | right | middle | other => cases handless
      | left =>
        obtain ⟨board, report, -, released⟩ := w.editor.exists_release position
        rw [perform, released] at run
        cases run
        intro held nothing
        cases nothing
    | place | move | edit | commit | choose | select | settle | generate | execute | run =>
      cases handless

/-- **An action does to the board what it does with every name looked up.** -/
theorem foldlM_actChecked_perform (run : w.perform runner action = .ok (next, reply)) :
    (w.editor.deeds action).foldlM (Deed.actChecked w.editor.range) w.editor.board
      = .ok next.editor.board := by
  rw [Deed.foldlM_actChecked fun id text mem => Editor.lt_of_recode_mem_deeds mem]
  exact (undergoes_perform run).board

/-- **So does a whole session.** -/
theorem foldlM_actChecked_performAll (run : w.performAll runner actions = .ok next) :
    (w.deeds runner actions).foldlM (Deed.actChecked w.editor.range) w.editor.board
      = .ok next.editor.board := by
  have both : next.editor.range = w.editor.range ∧
      ([] ++ w.deeds runner actions).foldlM (Deed.actChecked w.editor.range) w.editor.board
        = .ok next.editor.board :=
    performAll_induction (P := fun done next => next.editor.range = w.editor.range ∧
      done.foldlM (Deed.actChecked w.editor.range) w.editor.board = .ok next.editor.board)
      [] ⟨rfl, rfl⟩ (fun done m action next reply ⟨same, checked⟩ step => by
        refine ⟨(undergoes_perform step).range.trans same, ?_⟩
        rw [List.foldlM_append, checked, ← same]
        exact foldlM_actChecked_perform step) run
  exact both.2

/-- What is in the hand is a block, after every session. -/
theorem holdsBlock_of_performAll (h : w.editor.HoldsBlock)
    (run : w.performAll runner actions = .ok next) : next.editor.HoldsBlock :=
  foldlM_induction (P := fun w : Workspace σ => w.editor.HoldsBlock) run h
    fun _ _ _ _ hand step => by
    obtain ⟨⟨_, reply⟩, performed, rfl⟩ := map_eq_ok step
    exact holdsBlock_of_perform hand performed

/-! ## Names from outside -/

theorem perform_move_of_size_le {id : BlockId} (le : w.editor.board.size ≤ id) (delta : Point) :
    w.perform runner (.move id delta) = .ok (w, .done) := by
  rw [perform, Editor.move_of_get?_eq_none (Board.get?_eq_none_iff.mpr le)]
  rfl

theorem perform_edit_of_size_le {id : BlockId} (le : w.editor.board.size ≤ id) (text : String) :
    w.perform runner (.edit id text) = .ok (w, .known false) := by
  rw [perform, Editor.edit_of_get?_eq_none (Board.get?_eq_none_iff.mpr le)]
  rfl

/-- An integer that names no block gives a text to none. -/
theorem perform_commit_of_ne {number : Int}
    (ne : ∀ id : BlockId, id < w.editor.board.size → number ≠ (id : Nat)) (text : String) :
    w.perform runner (.commit number text) = .ok (w, .known false) := by
  cases number with
  | negSucc below => rfl
  | ofNat id =>
    have le : w.editor.board.size ≤ id := Nat.not_lt.mp fun lt => ne id lt rfl
    show w.perform runner (.edit id text) = _
    exact perform_edit_of_size_le le text

/-- **Every name leads to a block.** Let any actions be carried out, with any names, points
and texts and any range. None of them faults, so every block that is read is found; and
they do to the board what they do when every block that is changed is looked up first. In
the end, and so after each of them, every name that a link gives or that the hand keeps is
that of a block. The same is true of whatever action comes next. If this is to move, or to
give a text to, a block that is not there, nothing changes in the workspace, and also if a
text is given to an integer that names no block. What is picked at a point is a block, and
so is what has any mark on the painting. -/
theorem every_name_found (runner : Runner σ) (range : Float32) (memory : σ)
    (actions : List Action) :
    ∃ w, (new range memory).performAll runner actions = .ok w ∧
      ((new range memory).deeds runner actions).foldlM (Deed.actChecked range) .empty
        = .ok w.editor.board ∧
      w.editor.WellNamed ∧
      (∀ action, ∃ next reply, w.perform runner action = .ok (next, reply) ∧
        (w.editor.deeds action).foldlM (Deed.actChecked range) w.editor.board
          = .ok next.editor.board ∧ next.editor.WellNamed) ∧
      (∀ id, w.editor.board.size ≤ id → ∀ delta text,
        w.perform runner (.move id delta) = .ok (w, .done) ∧
          w.perform runner (.edit id text) = .ok (w, .known false)) ∧
      (∀ number : Int, (∀ id : BlockId, id < w.editor.board.size → number ≠ (id : Nat)) → ∀ text,
        w.perform runner (.commit number text) = .ok (w, .known false)) ∧
      (∀ p id, w.editor.board.pick? p = some id → id < w.editor.board.size) ∧
      ∀ id mark, (id, mark) ∈ w.editor.board.painting → id < w.editor.board.size := by
  obtain ⟨w, run, reachable⟩ := exists_performAll runner (w := new range memory) .empty actions
  obtain rfl : w.editor.range = range := (undergoes_performAll run).range
  have hand : w.editor.HoldsBlock :=
    holdsBlock_of_performAll (fun held nothing => by cases nothing) run
  refine ⟨w, run, foldlM_actChecked_performAll run,
    Editor.wellNamed_of_reachable reachable hand, fun action => ?_,
    fun id le delta text => ⟨perform_move_of_size_le le delta, perform_edit_of_size_le le text⟩,
    fun number => perform_commit_of_ne, fun p id picked =>
    Board.get?_isSome_iff.mp (Board.isSome_of_pick? picked), fun id mark painted => ?_⟩
  · obtain ⟨next, reply, performed⟩ := exists_perform runner reachable action
    have reachable := (undergoes_perform performed).reachable reachable
    exact ⟨next, reply, performed, foldlM_actChecked_perform performed,
      Editor.wellNamed_of_reachable reachable (holdsBlock_of_perform hand performed)⟩
  · obtain ⟨block, found, -⟩ := Board.mem_painting.mp painted
    exact Board.lt_of_get? found

/-- Blocks that lie nowhere or infinitely far away, and names and integers that are those of
no block. -/
def strayNames : List Action :=
  [.move 7 ⟨1, 1⟩, .place (.nest .conditional) ⟨0 / 0, 0⟩, .edit 1 "x", .commit (-1) "x",
    .place .call ⟨1 / 0, -1 / 0⟩, .place .call ⟨0, 0⟩, .press .left ⟨5, 5⟩,
    .drag ⟨0 / 0, 5⟩, .release .left ⟨5, 1 / 0⟩, .execute]

/-- Three blocks have been placed, and there is no fourth one to be moved or edited. -/
theorem every_name_found_strayNames : ∃ w,
    (new standardRange ()).performAll .echo strayNames = .ok w ∧ w.editor.board.size = 3 ∧
      w.perform .echo (.move 3 ⟨1, 1⟩) = .ok (w, .done) ∧
      w.perform .echo (.edit 3 "x") = .ok (w, .known false) ∧
      w.perform .echo (.commit (-1) "x") = .ok (w, .known false) := by
  obtain ⟨w, run, -, -, -, unknown, unnamed, -, -⟩ :=
    every_name_found .echo standardRange () strayNames
  have placed : ((new standardRange ()).performAll .echo strayNames).toOption.any (fun w =>
      decide (w.editor.board.size = 3)) = true := by
    decide +kernel
  rw [run] at placed
  have size_eq : w.editor.board.size = 3 := of_decide_eq_true placed
  obtain ⟨moved, edited⟩ := unknown 3 size_eq.le ⟨1, 1⟩ "x"
  exact ⟨w, run, size_eq, moved, edited, unnamed (-1) (fun id _ => by omega) "x"⟩

end Workspace

end SnapBlocks
