import SnapBlocks.Proofs.Growth
import SnapBlocks.Proofs.Reachable

/-!
# Links respect the kinds of blocks

The kind of a block decides which slots the block owns and into which slots it may be
put. Three places in the data have to agree on that: the points of a block, which are
laid out once from its kind; the positions of its slots, which are read off the points;
and the links, which are only made where a slot has a position and accepts the guest.

The points are a matter of single blocks: `Block.Formed` holds of a fresh block and
lasts. Where it holds, a slot has a position exactly if the kind owns it
(`Block.Formed.isSome_spot?`), so attaching a guest that fits adds a link from an owned
slot to a block of the right kind, and `Board.WellHeld` is kept by all operations.
-/

namespace SnapBlocks

variable {block : Block} {slot : Slot}

/-- The construct that a block of the kind opens, if it opens one. -/
def Kind.form? : Kind → Option Form
  | nest form => some form
  | _ => none

/-- Whether a block of the kind owns the slot. -/
def Kind.owns (kind : Kind) : Slot → Bool
  | .next => !kind.isInline
  | .argument => kind.takesArgument
  | .body => kind.hasBody

@[simp] theorem Kind.isSome_form? (kind : Kind) : kind.form?.isSome = kind.hasBody := by
  cases kind <;> rfl

theorem Kind.isInline_iff {kind : Kind} : kind.isInline = true ↔ kind = .expression := by
  cases kind <;> simp [isInline]

/-- An expression owns no slot. -/
theorem Kind.owns_eq_false {kind : Kind} (h : kind.isInline = true) (slot : Slot) :
    kind.owns slot = false := by
  cases kind <;> cases slot <;> simp_all [owns, isInline, takesArgument, hasBody]

theorem Slot.accepts_iff {kind : Kind} :
    slot.accepts kind = true ↔ (kind.isInline = true ↔ slot = .argument) := by
  cases slot <;> simp [accepts]

/-! ## The points of a block -/

/-- **A block has the points of its kind**: a socket if the kind takes an argument, and
the mouth of its construct if it is a nest. -/
structure Block.Formed (block : Block) : Prop where
  socket : block.socket.isSome = block.kind.takesArgument
  mouth : block.mouth.map (·.form) = block.kind.form?

/-- **A slot has a position exactly if the kind owns it.** -/
theorem Block.Formed.isSome_spot? (h : block.Formed) (slot : Slot) :
    (block.spot? slot).isSome = block.kind.owns slot := by
  cases slot with
  | next =>
    show (if block.kind.isInline then none else some block.finish).isSome = !block.kind.isInline
    split <;> simp_all
  | argument => exact h.socket
  | body =>
    show (block.mouth.map (·.entry)).isSome = block.kind.hasBody
    rw [← block.kind.isSome_form?, ← h.mouth, Option.isSome_map, Option.isSome_map]

namespace Board

variable {b c : Board} {range : Float32} {host guest id : BlockId}

theorem lasting_formed : Lasting Block.Formed where
  place := fun kind origin => by cases kind <;> exact ⟨rfl, rfl⟩
  recode := fun _ h => ⟨h.socket, h.mouth⟩
  translate := fun {block} delta h => by
    refine ⟨?_, ?_⟩
    · show (block.socket.map (· + delta)).isSome = block.kind.takesArgument
      rw [Option.isSome_map, h.socket]
    · show (block.mouth.map (·.translate delta)).map (·.form) = block.kind.form?
      rw [Option.map_map, ← h.mouth]
      rfl
  pin := fun _ h => ⟨h.socket, h.mouth⟩
  resize := fun {block} extent h => by
    refine ⟨by rw [Block.socket_resize, Block.kind_resize, h.socket], ?_⟩
    rw [Block.kind_resize, ← h.mouth]
    unfold Block.resize
    split
    · rfl
    · rename_i mouth open_side
      rw [open_side]
      rfl
  withLinks := fun _ h => ⟨h.socket, h.mouth⟩

/-! ## The links -/

/-- Every slot in use is owned by the kind of its block. -/
def Owned (b : Board) : Prop := ∀ host slot guest, b.held? host slot = some guest →
  ∃ kind, b.kind? host = some kind ∧ kind.owns slot = true

/-- **Every link runs from an owned slot to a block of a kind for it.** -/
structure WellHeld (b : Board) : Prop where
  suited : b.Suited
  owned : b.Owned

/-- Fewer links between blocks of the same kinds are as well held as they were. -/
theorem WellHeld.of_reads (h : b.WellHeld)
    (held : ∀ host slot guest, c.held? host slot = some guest → b.held? host slot = some guest)
    (kind : ∀ id kind, b.kind? id = some kind → c.kind? id = some kind) : c.WellHeld := by
  refine ⟨fun host slot guest link => ?_, fun host slot guest link => ?_⟩
  · obtain ⟨⟨k, host_kind, not_inline⟩, l, guest_kind, accepts⟩ :=
      h.suited host slot guest (held _ _ _ link)
    exact ⟨⟨k, kind _ _ host_kind, not_inline⟩, l, kind _ _ guest_kind, accepts⟩
  · obtain ⟨k, host_kind, owns⟩ := h.owned host slot guest (held _ _ _ link)
    exact ⟨k, kind _ _ host_kind, owns⟩

theorem Unlinked.wellHeld (h : b.Unlinked) : b.WellHeld := by
  refine ⟨fun host slot guest link => ?_, fun host slot guest link => ?_⟩
  all_goals
    rw [h.held?] at link
    cases link

/-- A change to one block that keeps its kind and its links. -/
theorem WellHeld.modify (h : b.WellHeld) (id : BlockId) {f : Block → Block}
    (kind : ∀ block, (f block).kind = block.kind) (links : ∀ block, (f block).links = block.links) :
    (b.modify id f).WellHeld := by
  refine h.of_reads (fun host slot guest link => ?_) fun other k found => ?_
  · rwa [(sameLinks_modify b id links).held?]
  · exact (map_get?_modify b id kind other).trans found

theorem WellHeld.congr (h : b.WellHeld) (same : b.SameRoles c) : c.WellHeld := by
  refine h.of_reads (fun host slot guest link => ?_) fun other k found => ?_
  · rwa [same.sameLinks.held?]
  · rwa [← same.kind?]

theorem WellHeld.push (h : b.WellHeld) {block : Block} (free : block.links = .none) :
    (b.push block).WellHeld := by
  refine h.of_reads (fun host slot guest link => ?_) fun id kind found => ?_
  · rw [held?_eq_links?, links?_push] at link
    split at link
    · rw [Option.bind_some, free, Links.held_none] at link
      cases link
    · rwa [held?_eq_links?]
  · obtain ⟨old, there, -⟩ := Option.map_eq_some_iff.mp found
    have ne : id ≠ b.size := (lt_of_get? there).ne
    rwa [kind?, get?_push, if_neg ne]

/-- Settling only fills slots that the host owns: an unowned slot has no position. -/
theorem stable_owned (range : Float32) :
    Stable range fun b => b.All Block.Formed ∧ b.Owned where
  attach := fun {c host guest slot spot} hc ⟨formed, owned⟩ fits => by
    refine ⟨(stable_all lasting_formed range).attach hc formed fits, ?_⟩
    intro other_host other_slot other held
    rw [kind?_attach]
    rw [fits.held?_attach] at held
    split at held
    · rename_i at_slot
      obtain ⟨rfl, rfl⟩ := at_slot
      obtain ⟨owner, found, -, at_spot⟩ := fits.host_fits
      refine ⟨owner.kind, kind?_of_get? found, ?_⟩
      rw [← (formed _ _ found).isSome_spot?, at_spot, Option.isSome_some]
    · exact owned other_host other_slot other held
  refit := fun {c nest block extent} hc ⟨formed, owned⟩ found measured => by
    refine ⟨(stable_all lasting_formed range).refit hc formed found measured, ?_⟩
    intro host slot guest held
    have same := sameRoles_refit c nest block extent
    rw [← same.sameLinks.held?] at held
    rw [← same.kind?]
    exact owned host slot guest held

/-- **On a board that can come up every link is well held.** -/
theorem Reachable.wellHeld (h : Reachable b) : b.WellHeld := by
  induction h with
  | empty => exact unlinked_empty.wellHeld
  | push kind origin code _ ih => exact ih.push rfl
  | recode id code _ ih => exact ih.modify id (fun _ => rfl) fun _ => rfl
  | translate id delta _ ih => exact ih.modify id (fun _ => rfl) fun _ => rfl
  | carry id delta _ ih => exact ih.congr (sameRoles_carry _ id delta)
  | snap id target _ ih => exact ih.congr (sameRoles_snap _ id target)
  | resize id extent _ ih =>
    exact ih.modify id (fun block => block.kind_resize extent) fun block => block.links_resize extent
  | unlink _ _ => exact (unlinked_unlink _).wellHeld
  | @settle b s range report reach settled _ =>
    have start := b.unlinked_unlink.wellHeld
    have formed := (reach.all lasting_formed).unlink lasting_formed
    exact ⟨(of_settle (stable_suited range) start.suited settled).2,
      (of_settle (stable_owned range) ⟨formed, start.owned⟩ settled).2.2⟩

namespace WellHeld

variable {block owner : Block}

/-- A slot that the kind does not own holds nothing. -/
theorem held_eq_none (h : b.WellHeld) (found : b.get? id = some block)
    (not_owned : block.kind.owns slot = false) : block.links.held slot = none := by
  by_contra held
  obtain ⟨guest, held⟩ := Option.ne_none_iff_exists'.mp held
  obtain ⟨kind, host_kind, owns⟩ := h.owned id slot guest ((held?_of_get? found slot).trans held)
  cases host_kind.symm.trans (kind?_of_get? found)
  rw [not_owned] at owns
  cases owns

theorem held?_eq_none (h : b.WellHeld) (found : b.get? id = some block)
    (not_owned : block.kind.owns slot = false) : b.held? id slot = none :=
  (held?_of_get? found slot).trans (h.held_eq_none found not_owned)

/-- Nothing lies below an expression. -/
theorem below_eq_nil (h : b.WellHeld) (found : b.get? id = some block)
    (is_inline : block.kind.isInline = true) : block.links.below = [] := by
  have nothing := fun slot => h.held_eq_none found (Kind.owns_eq_false is_inline slot)
  refine List.eq_nil_iff_forall_not_mem.mpr fun guest mem => ?_
  obtain ⟨slot, held⟩ := Links.mem_below.mp mem
  rw [nothing slot] at held
  cases held

/-- The two blocks of a link: the holder owns the slot, which is an argument slot exactly
if the other is an expression. -/
theorem exists_of_held? (h : b.WellHeld) (link : b.held? host slot = some guest) :
    ∃ owner block, b.get? host = some owner ∧ b.get? guest = some block ∧
      owner.kind.owns slot = true ∧ (block.kind.isInline = true ↔ slot = .argument) := by
  obtain ⟨kind, host_kind, owns⟩ := h.owned host slot guest link
  obtain ⟨-, kind', guest_kind, accepts⟩ := h.suited host slot guest link
  obtain ⟨owner, found_host, rfl⟩ := Option.map_eq_some_iff.mp host_kind
  obtain ⟨block, found_guest, rfl⟩ := Option.map_eq_some_iff.mp guest_kind
  exact ⟨owner, block, found_host, found_guest, owns, Slot.accepts_iff.mp accepts⟩

end WellHeld

/-! ## The main statement -/

/-- **Links and points of the board respect the kinds of its blocks.** -/
structure WellKinded (b : Board) : Prop where
  /-- An expression holds nothing in any slot. -/
  inline_holds_none : ∀ id block, b.get? id = some block → block.kind.isInline = true →
    block.links.next = none ∧ block.links.argument = none ∧ block.links.body = none
  /-- What lies in an argument slot is an expression, and belongs to a block that applies
  its code, assigns or opens a body. -/
  argument : ∀ host guest, b.held? host .argument = some guest →
    (∃ block, b.get? guest = some block ∧ block.kind = .expression) ∧
    ∃ owner, b.get? host = some owner ∧
      (owner.kind = .apply ∨ owner.kind = .assign ∨ ∃ form, owner.kind = .nest form)
  /-- What follows a block is no expression. -/
  next : ∀ host guest, b.held? host .next = some guest →
    ∃ block, b.get? guest = some block ∧ block.kind ≠ .expression
  /-- What lies in a body slot is no expression, and belongs to a nest. -/
  body : ∀ host guest, b.held? host .body = some guest →
    (∃ block, b.get? guest = some block ∧ block.kind ≠ .expression) ∧
    ∃ owner form, b.get? host = some owner ∧ owner.kind = .nest form
  /-- A block has a socket exactly if its kind takes an argument. -/
  socket : ∀ id block, b.get? id = some block → (block.socket.isSome ↔ block.kind.takesArgument)
  /-- A block has a mouth exactly if it is a nest, and then that of its construct. -/
  mouth : ∀ id block, b.get? id = some block → block.mouth.map (·.form) = block.kind.form?

/-- **On a board that can come up links and points respect the kinds.** -/
theorem Reachable.wellKinded (h : Reachable b) : b.WellKinded := by
  have wellHeld := h.wellHeld
  have formed := h.all lasting_formed
  refine ⟨?_, ?_, ?_, ?_, ?_, ?_⟩
  · intro id block found is_inline
    have nothing := fun slot => wellHeld.held_eq_none found (Kind.owns_eq_false is_inline slot)
    exact ⟨nothing .next, nothing .argument, nothing .body⟩
  · intro host guest link
    obtain ⟨owner, block, found_host, found_guest, owns, inline⟩ := wellHeld.exists_of_held? link
    refine ⟨⟨block, found_guest, Kind.isInline_iff.mp (inline.mpr rfl)⟩, owner, found_host, ?_⟩
    cases kind : owner.kind <;> simp_all [Kind.owns, Kind.takesArgument]
  · intro host guest link
    obtain ⟨-, block, -, found_guest, -, inline⟩ := wellHeld.exists_of_held? link
    refine ⟨block, found_guest, fun kind => ?_⟩
    exact absurd (inline.mp (Kind.isInline_iff.mpr kind)) nofun
  · intro host guest link
    obtain ⟨owner, block, found_host, found_guest, owns, inline⟩ := wellHeld.exists_of_held? link
    refine ⟨⟨block, found_guest, fun kind => ?_⟩, owner, ?_⟩
    · exact absurd (inline.mp (Kind.isInline_iff.mpr kind)) nofun
    · cases kind : owner.kind <;> simp_all [Kind.owns, Kind.hasBody]
  · intro id block found
    rw [(formed id block found).socket]
  · exact fun id block found => (formed id block found).mouth

/-- A conditional with a condition beside it, a call at its body and a call below it. -/
def guarded : Board :=
  (((empty.push ((Block.place (.nest .conditional) .origin).recode "if")).push
    ((Block.place .expression ⟨100, 5⟩).recode "ready")).push
      ((Block.place .call ⟨15, 50⟩).recode "go")).push ((Block.place .call ⟨0, 115⟩).recode "stop")

theorem reachable_guarded : guarded.Reachable :=
  .push .call ⟨0, 115⟩ "stop" (.push .call ⟨15, 50⟩ "go" (.push .expression ⟨100, 5⟩ "ready"
    (.push (.nest .conditional) .origin "if" .empty)))

/-- So it is for the conditional, which holds a block in every slot once it is settled. -/
theorem wellKinded_guarded : ∃ s report, guarded.settle standardRange = .ok (s, report) ∧
    (Slot.all.map (s.held? 0) = [some 3, some 1, some 2]) ∧ s.WellKinded := by
  have run : (guarded.settle standardRange).toOption.any (fun settled =>
      decide (Slot.all.map (settled.1.held? 0) = [some 3, some 1, some 2])) = true := by
    decide +kernel
  obtain ⟨⟨s, report⟩, settled, links⟩ := exists_ok_of_any run
  exact ⟨s, report, settled, of_decide_eq_true links,
    Reachable.wellKinded (.settle reachable_guarded settled)⟩

end Board

end SnapBlocks
