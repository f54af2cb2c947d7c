import SnapBlocks.Proofs.Rounds

/-!
# The report is a true count

The links of a report have been counted one by one, over all rounds, while the heads are
counted once, on the settled board. That the two numbers agree with each other and with
the board can be seen by counting a board in two ways (`Board.Forest.usedSlots_eq`): a
slot in use holds one block, and a held block lies in one slot, so the slots in use are as
many as the held blocks, and every other block is a head.

Since the way upward from any block ends, there is a head on every board with blocks. So
the links are fewer than the blocks, and they are fewer by one exactly if there is a
program to write.
-/

namespace SnapBlocks.Board

variable {b s : Board} {range : Float32} {report : Report}

/-! ## Slots in use and held blocks -/

/-- Every slot of every block. -/
def places (b : Board) : List (BlockId × Slot) := b.ids ×ˢ Slot.all

/-- The number of slots that hold something. -/
def usedSlots (b : Board) : Nat :=
  b.places.countP fun place => (b.held? place.1 place.2).isSome

/-- The number of blocks that something holds. -/
def heldBlocks (b : Board) : Nat := b.ids.countP fun id => (b.back? id).isSome

/-- What the slots hold, taken together. -/
def guests (b : Board) : List BlockId := b.places.filterMap fun place => b.held? place.1 place.2

theorem mem_guests {guest : BlockId} :
    guest ∈ b.guests ↔ ∃ host slot, b.held? host slot = some guest := by
  rw [guests, List.mem_filterMap]
  constructor
  · rintro ⟨⟨host, slot⟩, -, held⟩
    exact ⟨host, slot, held⟩
  · rintro ⟨host, slot, held⟩
    have listed : (host, slot) ∈ b.places :=
      List.pair_mem_product.mpr ⟨mem_ids.mpr (lt_of_held? held), slot.mem_all⟩
    exact ⟨(host, slot), listed, held⟩

/-- No two slots hold the same block. -/
theorem Forest.nodup_guests (hb : b.Forest) : b.guests.Nodup := by
  have places : b.places.Nodup := List.nodup_range.product (by decide)
  refine places.filterMap fun place place' guest held held' => ?_
  obtain ⟨host, slot⟩ := hb.held_inj held held'
  exact Prod.ext host slot

/-- **The slots hold the blocks that are no heads**, and each of them once. -/
theorem Forest.guests_perm (hb : b.Forest) :
    b.guests.Perm (b.ids.filter fun id => (b.back? id).isSome) := by
  have ids : b.ids.Nodup := List.nodup_range
  refine (List.perm_ext_iff_of_nodup hb.nodup_guests (ids.filter _)).mpr fun guest => ?_
  rw [mem_guests, List.mem_filter, mem_ids, Option.isSome_iff_exists]
  constructor
  · rintro ⟨host, slot, held⟩
    have holds := hb.back_of_held held
    exact ⟨lt_of_back? holds, host, holds⟩
  · rintro ⟨-, host, holds⟩
    obtain ⟨slot, held, -⟩ := hb.slot_unique holds
    exact ⟨host, slot, held⟩

/-- **There are as many slots in use as held blocks.** -/
theorem Forest.usedSlots_eq (hb : b.Forest) : b.usedSlots = b.heldBlocks := by
  calc b.usedSlots = b.guests.length := List.length_filterMap_eq_countP.symm
    _ = (b.ids.filter fun id => (b.back? id).isSome).length := hb.guests_perm.length_eq
    _ = b.heldBlocks := List.countP_eq_length_filter.symm

/-- A block is held, or it is a head. -/
theorem heldBlocks_add_heads (b : Board) : b.heldBlocks + b.heads.length = b.size := by
  have free : b.heads.length = b.ids.countP fun id => decide ¬ (b.back? id).isSome = true := by
    rw [heads, ← List.countP_eq_length_filter]
    refine List.countP_congr fun id _ => ?_
    simp
  rw [heldBlocks, free, ← List.length_eq_countP_add_countP, ids, List.length_range]

/-! ## Heads -/

/-- **A board with blocks has a head.** -/
theorem Forest.heads_ne_nil (hb : b.Forest) (some_block : 0 < b.size) : b.heads ≠ [] := by
  obtain ⟨head, mem, -⟩ := hb.exists_head some_block
  exact List.ne_nil_of_mem mem

/-- There is an only head exactly if one head is counted. -/
theorem isSome_head?_iff : b.head?.isSome = true ↔ b.heads.length = 1 := by
  constructor
  · intro some_head
    obtain ⟨head, only⟩ := Option.isSome_iff_exists.mp some_head
    rw [heads_eq_of_head? only]
    rfl
  · intro one
    obtain ⟨head, only⟩ := List.length_eq_one_iff.mp one
    rw [head?, only]
    rfl

/-! ## The main statement -/

/-- **The report counts the board**: what it says of links, heads and nests is what there
is. -/
structure CountedBy (s : Board) (report : Report) : Prop where
  /-- There is one link for each block that is held. -/
  held : report.links = s.heldBlocks
  /-- There is one link for each slot that holds something. -/
  used : report.links = s.usedSlots
  heads : report.heads = s.heads.length
  fitted : report.fitted = s.nests.length
  /-- Every block is either held by a link or a head. -/
  all : report.links + report.heads = s.size

theorem Forest.countedBy_of_settle (hs : s.Forest) (size_eq : s.size = b.size)
    (settled : b.settle range = .ok (s, report)) : s.CountedBy report := by
  have total := s.heldBlocks_add_heads
  have links : b.size - s.heads.length = s.heldBlocks := by omega
  rw [report_of_settle settled, links]
  exact ⟨rfl, hs.usedSlots_eq.symm, rfl, rfl, total⟩

/-- **The report on a settled board counts exactly.** A board that can come up has a head
if it has blocks, and it settles to one with as many blocks. The report on that board
counts its links, heads and nests. Asked for a program, the settled board answers with a
text exactly if the report says that there is one, which is so if the links and one more
are the number of the blocks. -/
theorem Reachable.report_counts (h : Reachable b) (range : Float32) :
    (0 < b.size → b.heads ≠ []) ∧
    ∃ s report, b.settle range = .ok (s, report) ∧ s.size = b.size ∧
      s.CountedBy report ∧ (0 < s.size → s.heads ≠ []) ∧
      (∃ program, s.program? = .ok program ∧
        (program.isSome = true ↔ report.isProgram = true)) ∧
      (report.isProgram = true ↔ report.links + 1 = s.size) := by
  obtain ⟨s, report, settled, hs, -⟩ := exists_settle (stable_true range) b trivial
  obtain ⟨-, size_eq⟩ := of_settle (stable_size b.size range) b.size_unlink settled
  have counted := hs.countedBy_of_settle size_eq settled
  have hw := (h.settle settled).wellHeld
  have one : report.isProgram = true ↔ s.heads.length = 1 := by
    rw [Report.isProgram, beq_iff_eq, counted.heads]
  refine ⟨h.forest.heads_ne_nil, s, report, settled, size_eq, counted, hs.heads_ne_nil,
    ⟨_, program?_eq hs hw, ?_⟩, ?_⟩
  · rw [Option.isSome_map, isSome_head?_iff, one]
  · rw [one, ← counted.heads, ← counted.all]
    omega

/-- The conditional and the two calls are one program. One of the links has been made in
the first round and the other in the second. -/
theorem report_counts_lateFoot : ∃ s, lateFoot.settle standardRange = .ok (s, ⟨2, 1, 1⟩) ∧
    s.heldBlocks = 2 ∧ s.usedSlots = 2 ∧ s.heads ≠ [] ∧
    ∃ text, s.program? = .ok (some text) := by
  obtain ⟨-, s, report, settled, size_eq, counted, some_head, ⟨program, answer, written⟩, one⟩ :=
    Reachable.report_counts reachable_lateFoot standardRange
  have run : (lateFoot.settle standardRange).toOption.any (fun settled =>
      decide (settled.2 = ⟨2, 1, 1⟩)) = true := by
    decide +kernel
  rw [settled] at run
  obtain rfl : report = ⟨2, 1, 1⟩ := of_decide_eq_true run
  have three : s.size = 3 := size_eq
  obtain ⟨text, rfl⟩ := Option.isSome_iff_exists.mp (written.mpr (one.mpr three.symm))
  exact ⟨s, settled, counted.held.symm, counted.used.symm, some_head (three ▸ Nat.zero_lt_succ 2),
    text, answer⟩

end SnapBlocks.Board
