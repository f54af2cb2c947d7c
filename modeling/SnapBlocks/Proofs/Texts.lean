import SnapBlocks.Proofs.Freshness

/-!
# Settling reads no text

The text of a block goes into the program and nowhere else: where a block lies, how large
it is and what it may hold follow from its kind and its points. So a board with other texts
(`Board.retext`) is settled to the same board with those other texts, and the report is the
same.

It comes down to single blocks: a change of a block that takes no notice of its text
commutes with the change of all texts (`modify_retext`). So do the walks along links, which
read links only. From there it is carried up through the loops of matching and fitting,
each by a look at its step (`foldlM_hom`).
-/

namespace SnapBlocks

/-! ## Steps that commute with a change of states -/

section Hom

variable {ε α β γ δ : Type}

/-- A step that commutes with a change of states does so after a step that does. -/
theorem map_bind_hom {g : α → β} {h : γ → δ} {f : α → Except ε γ} {f' : β → Except ε δ}
    (step : ∀ s, f' (g s) = (f s).map h) (x : Except ε α) :
    (x.map g >>= f') = (x >>= f).map h := by
  cases x with
  | error e => rfl
  | ok s => exact step s

/-- A step that is the same before two that commute with a change of states. -/
theorem bind_hom {h : γ → δ} {f : α → Except ε γ} {f' : α → Except ε δ}
    (step : ∀ s, f' s = (f s).map h) (x : Except ε α) : (x >>= f') = (x >>= f).map h := by
  cases x with
  | error e => rfl
  | ok s => exact step s

/-- **A loop commutes with a change of its states with which its steps commute.** -/
theorem foldlM_hom (g : β → γ) {f : β → α → Except ε β} {f' : γ → α → Except ε γ}
    (step : ∀ s x, f' (g s) x = (f s x).map g) (l : List α) (init : β) :
    l.foldlM f' (g init) = (l.foldlM f init).map g := by
  induction l generalizing init with
  | nil => rfl
  | cons x l ih =>
    rw [List.foldlM_cons, List.foldlM_cons, step]
    exact map_bind_hom ih (f init x)

end Hom

/-- The length of a bar is no matter of texts. -/
theorem Block.resize_recode (block : Block) (code : String) (extent : Float32) :
    (block.recode code).resize extent = (block.resize extent).recode code := by
  unfold resize
  cases open_side : block.mouth <;> simp only [recode, open_side]

namespace Board

variable {b c : Board} {id : BlockId} {text : BlockId → String → String}

/-- **The board with other texts**, each made from the name of a block and its text. -/
def retext (b : Board) (text : BlockId → String → String) : Board :=
  ⟨b.blocks.mapIdx fun id block => block.recode (text id block.code)⟩

/-! ## Boards with other texts -/

theorem get?_retext (b : Board) (text : BlockId → String → String) (id : BlockId) :
    (b.retext text).get? id = (b.get? id).map fun block => block.recode (text id block.code) :=
  Array.getElem?_mapIdx

@[simp] theorem size_retext (b : Board) (text : BlockId → String → String) :
    (b.retext text).size = b.size :=
  Array.size_mapIdx

theorem fetch_retext (b : Board) (text : BlockId → String → String) (id : BlockId) :
    (b.retext text).fetch id
      = (b.fetch id).map fun block => block.recode (text id block.code) := by
  rw [fetch, fetch, get?_retext, size_retext]
  cases b.get? id <;> rfl

/-- What a text has no part in is read off the board with other texts as well. -/
theorem map_get?_retext {α : Type} {read : Block → α}
    (blind : ∀ block code, read (Block.recode block code) = read block) (b : Board)
    (text : BlockId → String → String) (id : BlockId) :
    ((b.retext text).get? id).map read = (b.get? id).map read := by
  rw [get?_retext, Option.map_map]
  exact congrArg (Option.map · _) (funext fun block => blind block _)

theorem sameLinks_retext (b : Board) (text : BlockId → String → String) :
    b.SameLinks (b.retext text) :=
  fun id => (map_get?_retext (fun _ _ => rfl) b text id).symm

/-- **Boards are the same but for their texts if one is the other with other texts.** -/
theorem sameButCodes_iff : b.SameButCodes c ↔ ∃ text, c = b.retext text := by
  constructor
  · intro same
    have blank (id : BlockId) :
        (b.get? id).map (·.recode "") = (c.get? id).map (·.recode "") := by
      rw [← get?_map, ← get?_map, show b.map _ = c.map _ from same]
    refine ⟨fun id _ => ((c.get? id).map Block.code).getD "", ext_get? fun id => ?_⟩
    rw [get?_retext]
    have at_id := blank id
    cases there : c.get? id with
    | none =>
      rw [there] at at_id
      rw [Option.map_eq_none_iff.mp at_id]
      rfl
    | some block =>
      rw [there] at at_id
      obtain ⟨old, found, same⟩ := Option.map_eq_some_iff.mp at_id
      rw [found]
      -- with its own text put back, a block is what it was
      exact congrArg (fun blank => some (blank.recode block.code)) same.symm
  · rintro ⟨text, rfl⟩
    refine ext_get? fun id => ?_
    rw [get?_map, get?_map, map_get?_retext (fun _ _ => rfl)]

theorem sameButCodes_retext (b : Board) (text : BlockId → String → String) :
    b.SameButCodes (b.retext text) :=
  sameButCodes_iff.mpr ⟨text, rfl⟩

/-- Giving one block a text is a change of texts. -/
theorem modify_recode_eq_retext (b : Board) (id : BlockId) (new : String) :
    b.modify id (·.recode new)
      = b.retext fun other old => if other = id then new else old := by
  refine ext_get? fun other => ?_
  rw [get?_modify, get?_retext]
  by_cases same : other = id
  · subst same
    simp only [if_true]
  · rw [if_neg (Ne.symm same)]
    simp only [same, if_false]
    exact (Option.map_id' (x := b.get? other)).symm

/-! ## Changes that take no notice of texts -/

section Changes

variable (b) (text)

theorem modify_retext {f : Block → Block}
    (blind : ∀ block code, f (Block.recode block code) = (f block).recode code) (id : BlockId) :
    (b.retext text).modify id f = (b.modify id f).retext text := by
  -- a block with its own text is itself, so such a change leaves the text as it is
  have keeps (block : Block) : (f block).code = block.code := by
    rw [show f block = _ from blind block block.code]
    rfl
  refine ext_get? fun other => ?_
  rw [get?_modify, get?_retext, get?_retext, get?_modify]
  split
  · rw [Option.map_map, Option.map_map]
    refine congrArg (Option.map · _) (funext fun block => ?_)
    rw [Function.comp, Function.comp, blind, keeps]
  · rfl

theorem unlink_retext : (b.retext text).unlink = b.unlink.retext text := by
  refine ext_get? fun id => ?_
  rw [unlink, unlink, get?_map, get?_retext, get?_retext, get?_map, Option.map_map, Option.map_map]
  rfl

theorem subtree_retext (id : BlockId) : (b.retext text).subtree id = b.subtree id :=
  ((b.sameLinks_retext text).subtree_eq id).symm

theorem carry_retext (id : BlockId) (delta : Point) :
    (b.retext text).carry id delta = (b.carry id delta).retext text := by
  rw [carry, carry, subtree_retext]
  split
  · rfl
  · refine List.foldl_hom (retext · text) fun c member => ?_
    exact c.modify_retext text (fun _ _ => rfl) member

theorem snap_retext (id : BlockId) (target : Point) :
    (b.retext text).snap id target = (b.snap id target).retext text := by
  rw [snap, snap, get?_retext]
  cases b.get? id with
  | none => rfl
  | some block =>
    show ((b.retext text).carry id (target - block.start)).modify id _ = _
    rw [carry_retext, modify_retext _ _ fun _ _ => rfl]

theorem link_retext (host guest : BlockId) (slot : Slot) :
    (b.retext text).link host guest slot = (b.link host guest slot).retext text := by
  rw [link, link, modify_retext _ _ fun _ _ => rfl, modify_retext _ _ fun _ _ => rfl]

end Changes

/-! ## Walks -/

section Walks

variable (b) (text)

theorem climb_retext (steps : Nat) (id : BlockId) :
    (b.retext text).climb steps id = b.climb steps id := by
  induction steps generalizing id with
  | zero => rfl
  | succ steps ih =>
    rw [climb, climb, ← (b.sameLinks_retext text).back?]
    cases b.back? id with
    | none => rfl
    | some host => exact congrArg (host :: ·) (ih host)

theorem isAbove_retext (candidate id : BlockId) :
    (b.retext text).isAbove candidate id = b.isAbove candidate id := by
  rw [isAbove, isAbove, ancestors, ancestors, size_retext, climb_retext]

theorem depthWithin_retext (steps : Nat) (id : BlockId) :
    (b.retext text).depthWithin steps id = b.depthWithin steps id := by
  induction steps generalizing id with
  | zero => rfl
  | succ steps ih =>
    rw [depthWithin, depthWithin, ← (b.sameLinks_retext text).back?]
    cases b.back? id with
    | none => rfl
    | some host =>
      simp only [fetch_retext, ih]
      cases b.fetch host <;> rfl

theorem interior_retext (nest : BlockId) : (b.retext text).interior nest = b.interior nest :=
  ((b.sameLinks_retext text).interior_eq nest).symm

theorem heads_retext : (b.retext text).heads = b.heads :=
  (b.sameLinks_retext text).heads_eq.symm

theorem nests_retext : (b.retext text).nests = b.nests := by
  rw [nests, nests, ids, ids, size_retext]
  refine List.filter_congr fun id _ => ?_
  rw [get?_retext, Option.any_map]
  rfl

/-- What is picked at a point does not depend on texts either. -/
theorem pick?_retext (p : Point) : (b.retext text).pick? p = b.pick? p := by
  have areas : (b.retext text).named.map (fun item => (item.1, item.2.areas))
      = b.named.map fun item => (item.1, item.2.areas) := by
    rw [named, named, ids, ids, size_retext, List.map_filterMap, List.map_filterMap]
    refine List.filterMap_congr fun id _ => ?_
    rw [get?_retext, Option.map_map, Option.map_map, Option.map_map]
    rfl
  exact congrArg (topmost? p) areas

end Walks

/-! ## Settling -/

section Settling

variable (b) (text) (range : Float32)

theorem verdict_retext (host guest : BlockId) (slot : Slot) :
    (b.retext text).verdict range host guest slot = b.verdict range host guest slot := by
  rw [verdict, verdict, isAbove_retext]
  simp only [fetch_retext]
  cases b.fetch host with
  | error fault => rfl
  | ok owner => cases b.fetch guest <;> cases slot <;> rfl

/-- The board with other texts, beside what has been counted or reported. -/
def retexted {α : Type} (text : BlockId → String → String) (done : Board × α) : Board × α :=
  (done.1.retext text, done.2)

theorem attempt_retext (host guest : BlockId) (sofar : Board × Nat) (slot : Slot) :
    attempt range host guest (retexted text sofar) slot
      = (attempt range host guest sofar slot).map (retexted text) := by
  rw [attempt, attempt, retexted, verdict_retext]
  refine bind_hom (fun answer => ?_) _
  cases answer with
  | refuse reason => rfl
  | accept spot =>
    dsimp only
    rw [snap_retext, link_retext]
    rfl

theorem turn_retext (sofar : Board × Nat) (host : BlockId) :
    turn range (retexted text sofar) host = (turn range sofar host).map (retexted text) := by
  have offers (sofar : Board × Nat) (guest : BlockId) :
      offer range host (retexted text sofar) guest
        = (offer range host sofar guest).map (retexted text) :=
    foldlM_hom (retexted text) (attempt_retext text range host guest) Slot.all sofar
  rw [turn, turn, retexted, ids, ids, size_retext]
  exact foldlM_hom (retexted text) offers _ sofar

theorem round_retext : (b.retext text).round range = (b.round range).map (retexted text) := by
  rw [round, round, ids, ids, size_retext]
  exact foldlM_hom (retexted text) (turn_retext text range) _ (b, 0)

theorem lengthInBody_retext (id : BlockId) :
    (b.retext text).lengthInBody id = b.lengthInBody id := by
  rw [lengthInBody, lengthInBody, fetch_retext]
  cases b.fetch id <;> rfl

theorem fittingExtent_retext (nest : BlockId) :
    (b.retext text).fittingExtent nest = b.fittingExtent nest := by
  have lengths : (b.retext text).lengthInBody = b.lengthInBody :=
    funext (b.lengthInBody_retext text)
  rw [fittingExtent, fittingExtent, interior_retext, lengths]

theorem fit_retext (nest : BlockId) :
    (b.retext text).fit nest = (b.fit nest).map (retext · text) := by
  rw [fit, fit, fittingExtent_retext, fetch_retext]
  refine bind_hom (fun extent => map_bind_hom (fun block => ?_) _) _
  dsimp only
  rw [modify_retext _ _ (fun block code => block.resize_recode code extent), Block.resize_recode]
  have same : (block.recode (text nest block.code)).links = block.links := rfl
  rw [same]
  cases block.links.next with
  | none => rfl
  | some follower => exact congrArg Except.ok (snap_retext ..)

theorem fitAll_retext : (b.retext text).fitAll = b.fitAll.map (retexted text) := by
  have depths : (b.retext text).depth = b.depth := funext fun id => by
    rw [depth, depth, size_retext, depthWithin_retext]
  rw [fitAll, fitAll, fittingOrder, fittingOrder, nests_retext, depths]
  refine bind_hom (fun order => ?_) _
  rw [foldlM_hom (retext · text) fun c nest => c.fit_retext text nest]
  refine map_bind_hom (fun _ => ?_) _
  rfl

theorem moreRounds_retext (limit links fitted : Nat) :
    moreRounds range limit (b.retext text) links fitted
      = (moreRounds range limit b links fitted).map (retexted text) := by
  induction limit generalizing b links fitted with
  | zero => rfl
  | succ limit ih =>
    rw [moreRounds, moreRounds, round_retext]
    refine map_bind_hom (fun matched => ?_) _
    obtain ⟨m, added⟩ := matched
    dsimp only [retexted]
    split
    · rfl
    · rw [fitAll_retext]
      exact map_bind_hom (fun fit => ih fit.1 _ _) _

/-- **Settling reads no text.** A board with other texts is settled to the same board with
those texts, with the same report, and where settling one faults so does settling the
other. -/
theorem settle_retext : (b.retext text).settle range = (b.settle range).map (retexted text) := by
  rw [settle, settle, unlink_retext, round_retext, size_retext]
  refine map_bind_hom (fun matched => ?_) _
  obtain ⟨m, links⟩ := matched
  dsimp only [retexted]
  rw [fitAll_retext]
  refine map_bind_hom (fun fit => ?_) _
  obtain ⟨f, fitted⟩ := fit
  dsimp only [retexted]
  split
  · show Except.ok (f.retext text, Report.mk links (f.retext text).heads.length fitted) = _
    rw [heads_retext]
    rfl
  · rw [moreRounds_retext]
    refine map_bind_hom (fun settled => ?_) _
    dsimp only [retexted]
    rw [heads_retext]
    rfl

end Settling

/-- **Settling commutes with giving a block a text**, and the report is the same. -/
theorem settle_recode (b : Board) (id : BlockId) (new : String) (range : Float32) :
    (b.modify id (·.recode new)).settle range
      = (b.settle range).map fun done => (done.1.modify id (·.recode new), done.2) := by
  have retexted_eq : (fun done : Board × Report => (done.1.modify id (·.recode new), done.2))
      = retexted fun other old => if other = id then new else old :=
    funext fun done => by rw [modify_recode_eq_retext, retexted]
  rw [modify_recode_eq_retext, settle_retext, retexted_eq]

/-! ## Boards that are the same but for their texts -/

namespace SameButCodes

variable (h : b.SameButCodes c)

include h

theorem size_eq : b.size = c.size := by
  obtain ⟨text, rfl⟩ := sameButCodes_iff.mp h
  exact (b.size_retext text).symm

theorem isSome_get? (id : BlockId) : (b.get? id).isSome = (c.get? id).isSome := by
  obtain ⟨text, rfl⟩ := sameButCodes_iff.mp h
  rw [get?_retext, Option.isSome_map]

theorem heads_eq : b.heads = c.heads := by
  obtain ⟨text, rfl⟩ := sameButCodes_iff.mp h
  exact (b.heads_retext text).symm

theorem pick?_eq (p : Point) : b.pick? p = c.pick? p := by
  obtain ⟨text, rfl⟩ := sameButCodes_iff.mp h
  exact (b.pick?_retext text p).symm

theorem push (block : Block) : (b.push block).SameButCodes (c.push block) := by
  refine ext_get? fun id => ?_
  rw [get?_map, get?_map, get?_push, get?_push, h.size_eq]
  split
  · rfl
  · rw [← get?_map, ← get?_map, show b.map _ = c.map _ from h]

theorem recode (id : BlockId) (text text' : String) :
    (b.modify id (·.recode text)).SameButCodes (c.modify id (·.recode text')) :=
  ((b.sameButCodes_recode id text).symm.trans h).trans (c.sameButCodes_recode id text')

theorem carry (id : BlockId) (delta : Point) :
    (b.carry id delta).SameButCodes (c.carry id delta) := by
  obtain ⟨text, rfl⟩ := sameButCodes_iff.mp h
  rw [carry_retext]
  exact sameButCodes_retext _ text

/-- They are settled to boards that are the same but for their texts, with the same report. -/
theorem settle {s : Board} {report : Report} {range : Float32}
    (settled : b.settle range = .ok (s, report)) :
    ∃ s', c.settle range = .ok (s', report) ∧ s.SameButCodes s' := by
  obtain ⟨text, rfl⟩ := sameButCodes_iff.mp h
  refine ⟨s.retext text, ?_, s.sameButCodes_retext text⟩
  rw [settle_retext, settled]
  rfl

end SameButCodes

end Board

end SnapBlocks
