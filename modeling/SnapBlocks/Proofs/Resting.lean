import SnapBlocks.Proofs.Kinds

/-!
# What settling leaves in place

Settling moves blocks in two ways. A guest that is attached is snapped with its subtree,
and so is what follows a nest that has been fitted. All of these blocks are held: the
guest is linked right away, the follower was linked before, and the rest of a subtree is
held by other blocks of it. A held block is never released, so a block that nothing holds
in the end has not been moved at all, whatever slots it was tried on in between.

What may have happened to it is a new bar, if it is a nest. This changes the length of the
bar and the finish at the foot of it, and no other point.

`Board.Spares` says this of two boards, one of which comes from the other. It is a
preorder, so each step is looked at alone.
-/

namespace SnapBlocks

/-- What a block stands for in a program. -/
def Block.meaning (block : Block) : Kind × String := (block.kind, block.code)

/-- **The second block lies where the first does.** If it has a bar, the length of the bar
and the finish below it may be others. -/
structure Block.InPlace (block new : Block) : Prop where
  start : new.start = block.start
  socket : new.socket = block.socket
  entry : new.mouth.map (·.entry) = block.mouth.map (·.entry)
  bar : new.mouth.map (·.bar) = block.mouth.map (·.bar)
  finish : block.mouth = none → new.finish = block.finish

namespace Block.InPlace

variable {block new newer : Block}

theorem refl (block : Block) : block.InPlace block := ⟨rfl, rfl, rfl, rfl, fun _ => rfl⟩

theorem trans (h : block.InPlace new) (h' : new.InPlace newer) : block.InPlace newer := by
  refine ⟨h'.start.trans h.start, h'.socket.trans h.socket, h'.entry.trans h.entry,
    h'.bar.trans h.bar, fun no_mouth => ?_⟩
  have no_entry := h.entry
  rw [no_mouth, Option.map_none, Option.map_eq_none_iff] at no_entry
  exact (h'.finish no_entry).trans (h.finish no_mouth)

theorem withLinks (block : Block) (links : Links) : block.InPlace (block.withLinks links) :=
  ⟨rfl, rfl, rfl, rfl, fun _ => rfl⟩

/-- A new bar leaves the block in place. -/
theorem resize (block : Block) (extent : Float32) : block.InPlace (block.resize extent) := by
  unfold Block.resize
  split
  · exact .refl block
  · rename_i mouth open_side
    refine ⟨rfl, rfl, ?_, ?_, fun no_mouth => ?_⟩
    · rw [open_side]
      rfl
    · rw [open_side]
      rfl
    · rw [open_side] at no_mouth
      cases no_mouth

end Block.InPlace

namespace Board

variable {b c d s : Board} {range : Float32} {host guest id nest : BlockId} {slot : Slot}
  {block : Block} {extent : Float32} {spot : Point}

/-! ## Blocks keep their meaning -/

/-- **The two boards have blocks of the same kinds and with the same codes**, in the same
order. -/
def SameMeanings (b c : Board) : Prop :=
  ∀ id, (b.get? id).map Block.meaning = (c.get? id).map Block.meaning

theorem SameMeanings.trans (h : b.SameMeanings c) (h' : c.SameMeanings d) : b.SameMeanings d :=
  fun id => (h id).trans (h' id)

theorem SameMeanings.size_eq (h : b.SameMeanings c) : b.size = c.size :=
  eq_of_forall_lt_iff fun id => by
    rw [← get?_isSome_iff, ← get?_isSome_iff, ← Option.isSome_map (f := Block.meaning), h id,
      Option.isSome_map]

theorem SameRoles.sameMeanings (h : b.SameRoles c) : b.SameMeanings c := fun id => by
  have := congrArg (Option.map fun role : Kind × String × Links => (role.1, role.2.1)) (h id)
  rw [Option.map_map, Option.map_map] at this
  exact this

theorem sameMeanings_unlink (b : Board) : b.SameMeanings b.unlink := fun id => by
  rw [unlink, get?_map, Option.map_map]
  rfl

theorem stable_sameMeanings (b : Board) (range : Float32) : Stable range b.SameMeanings where
  attach := fun {c host guest slot spot} _ same _ => by
    refine (same.trans (sameRoles_snap c guest spot).sameMeanings).trans fun id => ?_
    exact (map_get?_link _ host guest slot (fun _ _ => rfl) id).symm
  refit := fun {c nest block extent} _ same _ _ =>
    same.trans (sameRoles_refit c nest block extent).sameMeanings

/-! ## Blocks that nothing holds stay where they are -/

/-- **What nothing holds on the second board was held by nothing on the first**, and lay
in the same place. -/
def Spares (b c : Board) : Prop := ∀ id new, c.get? id = some new → c.back? id = none →
  b.back? id = none ∧ ∃ block, b.get? id = some block ∧ block.InPlace new

theorem Spares.refl (b : Board) : b.Spares b :=
  fun _ new found free => ⟨free, new, found, .refl new⟩

theorem Spares.trans (h : b.Spares c) (h' : c.Spares d) : b.Spares d := by
  intro id newer found free
  obtain ⟨free, new, found, newer_place⟩ := h' id newer found free
  obtain ⟨free, block, found, new_place⟩ := h id new found free
  exact ⟨free, block, found, new_place.trans newer_place⟩

/-- A head lies in no subtree but its own, so no snap of another block moves it. -/
theorem Forest.get?_snap_of_back? (hb : b.Forest) (free : b.back? id = none) (ne : id ≠ guest)
    (target : Point) : (b.snap guest target).get? id = b.get? id :=
  hb.get?_snap_of_not_mem target (hb.not_mem_subtree ne (not_above_of_back? free))

/-- A link changes nothing but links. -/
theorem exists_of_get?_link (found : (b.link host guest slot).get? id = some block) :
    ∃ old links, b.get? id = some old ∧ block = old.withLinks links := by
  simp only [link, get?_modify] at found
  split at found
  · obtain ⟨inner, there, rfl⟩ := Option.map_eq_some_iff.mp found
    split at there
    · obtain ⟨old, old_there, rfl⟩ := Option.map_eq_some_iff.mp there
      exact ⟨old, _, old_there, rfl⟩
    · exact ⟨inner, _, there, rfl⟩
  · split at found
    · obtain ⟨old, old_there, rfl⟩ := Option.map_eq_some_iff.mp found
      exact ⟨old, _, old_there, rfl⟩
    · exact ⟨block, block.links, found, rfl⟩

/-- **Attaching a guest spares every block but those it brings along**, all of which are
held afterwards. -/
theorem Fits.spares_attach (fits : b.Fits range host guest slot spot) (hb : b.Forest) :
    b.Spares (b.attach host guest slot spot) := by
  intro id new found free
  rw [fits.back?_attach] at free
  split at free
  · cases free
  · rename_i ne
    obtain ⟨old, links, there, rfl⟩ := exists_of_get?_link found
    rw [hb.get?_snap_of_back? free ne] at there
    exact ⟨free, old, there, .withLinks old links⟩

theorem spares_resize (b : Board) (nest : BlockId) (extent : Float32) :
    b.Spares (b.modify nest (·.resize extent)) := by
  intro id new found free
  rw [← (sameLinks_modify b nest fun block => block.links_resize extent).back?] at free
  refine ⟨free, ?_⟩
  rw [get?_modify] at found
  split at found
  · obtain ⟨old, there, rfl⟩ := Option.map_eq_some_iff.mp found
    exact ⟨old, there, .resize old extent⟩
  · exact ⟨new, found, .refl new⟩

/-- **Fitting a nest spares every block but those that come after it.** -/
theorem Forest.spares_refit (hb : b.Forest) (found : b.get? nest = some block) (extent : Float32) :
    b.Spares (b.refit nest block extent) := by
  have same := sameLinks_modify b nest fun block => block.links_resize extent
  have resized := b.spares_resize nest extent
  unfold refit
  split
  · exact resized
  · rename_i follower follows
    refine resized.trans fun id new there free => ?_
    rw [← (sameRoles_snap _ follower _).sameLinks.back?] at free
    -- the follower itself is held by the nest
    have ne : id ≠ follower := by
      rintro rfl
      have held := (held?_of_get? found .next).trans follows
      rw [← same.back?, hb.back_of_held held] at free
      cases free
    rw [(hb.congr same).get?_snap_of_back? free ne] at there
    exact ⟨free, new, there, .refl new⟩

theorem stable_spares (b : Board) (range : Float32) : Stable range b.Spares where
  attach := fun hc spares fits => spares.trans (fits.spares_attach hc)
  refit := fun {_ _ _ extent} hc spares found _ => spares.trans (hc.spares_refit found extent)

/-! ## The settled board -/

/-- **Settling changes neither which blocks there are nor where those lie that nothing
holds in the end.** They are as many, in the same order, of the same kinds and with the
same codes. One that no slot of the settled board holds starts where it did before, its
argument and its body would be attached where they were, its bar is where it was, and its
finish too unless it is a nest. -/
theorem Reachable.settle_leaves_heads (h : Reachable b) (range : Float32) :
    ∃ s report, b.settle range = .ok (s, report) ∧ s.size = b.size ∧
      (∀ id, (s.get? id).map (fun block => (block.kind, block.code))
        = (b.get? id).map fun block => (block.kind, block.code)) ∧
      ∀ id block new, b.get? id = some block → s.get? id = some new → s.back? id = none →
        new.start = block.start ∧ new.socket = block.socket ∧
        new.mouth.map (·.entry) = block.mouth.map (·.entry) ∧
        new.mouth.map (·.bar) = block.mouth.map (·.bar) ∧
        (block.kind.hasBody = false → new.finish = block.finish) := by
  obtain ⟨s, report, settled, -, meanings⟩ :=
    exists_settle (stable_sameMeanings b range) b b.sameMeanings_unlink
  obtain ⟨-, spares⟩ := of_settle (stable_spares b.unlink range) (.refl b.unlink) settled
  refine ⟨s, report, settled, meanings.size_eq.symm, fun id => (meanings id).symm, ?_⟩
  intro id block new found there free
  obtain ⟨-, old, old_found, in_place⟩ := spares id new there free
  rw [Board.unlink, get?_map, found] at old_found
  cases old_found
  refine ⟨in_place.start, in_place.socket, in_place.entry, in_place.bar, fun plain => ?_⟩
  refine in_place.finish ?_
  show block.mouth = none
  rw [← Option.not_isSome_iff_eq_none, h.all lasting_shaped id block found, plain]
  exact Bool.false_ne_true

/-- The conditional with all its blocks, and one more call near the slot below it, which
is tried there after the slot has been filled. -/
def crowded : Board := guarded.push ((Block.place .call ⟨0, 120⟩).recode "late")

theorem reachable_crowded : crowded.Reachable :=
  .push .call ⟨0, 120⟩ "late" reachable_guarded

/-- The call that comes too late stays where it was. -/
theorem settle_leaves_heads_crowded : ∃ s report new,
    crowded.settle standardRange = .ok (s, report) ∧ s.held? 0 .next = some 3 ∧
      s.get? 4 = some new ∧ s.back? 4 = none ∧
        new.start = ⟨0, 120⟩ ∧ new.finish = ⟨0, 120⟩ + ⟨0, unit⟩ := by
  obtain ⟨s, report, settled, size_eq, -, in_place⟩ :=
    reachable_crowded.settle_leaves_heads standardRange
  have run : (crowded.settle standardRange).toOption.all (fun settled =>
      decide (settled.1.held? 0 .next = some 3 ∧ settled.1.back? 4 = none)) = true := by
    decide +kernel
  rw [settled] at run
  obtain ⟨filled, free⟩ := of_decide_eq_true run
  obtain ⟨new, there⟩ : ∃ new, s.get? 4 = some new :=
    exists_get? (size_eq ▸ Nat.lt_succ_self 4)
  obtain ⟨start, -, -, -, finish⟩ := in_place 4 _ new rfl there free
  exact ⟨s, report, new, settled, filled, there, free, start, finish rfl⟩

end Board

end SnapBlocks
