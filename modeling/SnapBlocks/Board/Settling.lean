import SnapBlocks.Board.Attachment
import SnapBlocks.Board.Subtree

/-!
# Settling

Links follow from where the blocks lie, and **settling** a board makes them anew.

All links are cleared. Then every block in turn, in order of placement, is host
to every other block in turn, for each of its slots: a guest that may be put into
a slot is snapped onto it, with everything it holds, and linked. The first guest
that fits gets the slot, not the nearest one.

After such a **round** the nests are fitted, those in the deepest bodies first:
the bar of a nest is made as long as its body, and what follows the nest is
snapped to the new foot of the bar.

Snapping and fitting move blocks, and may bring a slot near to a block that is
still free. So matching and fitting are repeated, keeping the links made so far,
until a round makes no link. Every round but the last makes one, and no block is
held twice, so there are no more rounds than blocks after the first one; the
number of rounds is limited to that.
-/

namespace SnapBlocks

/-- What became of the board when it was settled. -/
structure Report where
  /-- The number of links made. -/
  links : Nat
  /-- The number of blocks that nothing holds. -/
  heads : Nat
  /-- The number of nests fitted to their bodies. -/
  fitted : Nat
deriving DecidableEq, Repr

namespace Report

/-- The report on nothing. -/
def none : Report := ⟨0, 0, 0⟩

instance : Inhabited Report := ⟨none⟩

/-- Whether there is exactly one block to start from. -/
def isProgram (r : Report) : Bool := r.heads == 1

end Report

/-- A guest closer to a slot than this is drawn onto it, unless told otherwise. -/
def standardRange : Float32 := 20

namespace Board

/-! ## Matching -/

/-- One guest is tried on one slot. With the board goes the number of links made. -/
def attempt (range : Float32) (host guest : BlockId) (sofar : Board × Nat) (slot : Slot) :
    Except Fault (Board × Nat) := do
  match ← sofar.1.verdict range host guest slot with
  | .accept spot => return ((sofar.1.snap guest spot).link host guest slot, sofar.2 + 1)
  | .refuse _ => return sofar

/-- One guest is tried on every slot of one host. -/
def offer (range : Float32) (host : BlockId) (sofar : Board × Nat) (guest : BlockId) :
    Except Fault (Board × Nat) :=
  Slot.all.foldlM (attempt range host guest) sofar

/-- **The turn of one host**: every block is tried on its slots. -/
def turn (range : Float32) (sofar : Board × Nat) (host : BlockId) : Except Fault (Board × Nat) :=
  sofar.1.ids.foldlM (offer range host) sofar

/-- **One round of matching**: every block has its turn as a host. -/
def round (b : Board) (range : Float32) : Except Fault (Board × Nat) :=
  b.ids.foldlM (turn range) (b, 0)

/-! ## Fitting -/

/-- The length that a block takes up in a body. -/
def lengthInBody (b : Board) (id : BlockId) : Except Fault Float32 := do
  let block ← b.fetch id
  return if block.kind.hasBody then block.height else plainExtent

/-- **The length of the bar that fits the body of a nest**: the lengths of the
blocks in the body are added up from the first to the last. -/
def fittingExtent (b : Board) (nest : BlockId) : Except Fault Float32 := do
  let lengths ← (← b.interior nest).mapM b.lengthInBody
  return emptyExtent + lengths.foldl (· + ·) 0

/-- **The board with one nest fitted to its body**, and what follows the nest
snapped to its new finish. -/
def fit (b : Board) (nest : BlockId) : Except Fault Board := do
  let extent ← b.fittingExtent nest
  let block ← b.fetch nest
  let resized := b.modify nest (·.resize extent)
  match block.links.next with
  | none => return resized
  | some follower => return resized.snap follower (block.resize extent).finish

/-- Puts a block into a list ordered by falling depth, in front of the blocks of
its own depth. -/
def insertByDepth (entry : Nat × BlockId) : List (Nat × BlockId) → List (Nat × BlockId)
  | [] => [entry]
  | other :: rest =>
    if other.1 ≤ entry.1 then entry :: other :: rest else other :: insertByDepth entry rest

/-- The entries by falling depth; those of one depth keep their order. -/
def sortByDepth (entries : List (Nat × BlockId)) : List (Nat × BlockId) :=
  entries.foldr insertByDepth []

/-- The names of all nests, in order of placement. -/
def nests (b : Board) : List BlockId :=
  b.ids.filter fun id => (b.get? id).any (·.kind.hasBody)

/-- **The nests in the order in which they are fitted**: deepest first, and in
order of placement where the depth is the same. -/
def fittingOrder (b : Board) : Except Fault (List BlockId) := do
  let entries ← b.nests.mapM fun id => do return (← b.depth id, id)
  return (sortByDepth entries).map Prod.snd

/-- **The board with every nest fitted**, and how many there were. -/
def fitAll (b : Board) : Except Fault (Board × Nat) := do
  let order ← b.fittingOrder
  return (← order.foldlM fit b, order.length)

/-! ## Rounds -/

/-- Further rounds, at most `limit` of them, until one makes no link. `links`
counts the links made before and `fitted` the nests fitted last. -/
def moreRounds (range : Float32) : Nat → Board → Nat → Nat → Except Fault (Board × Nat × Nat)
  | 0, b, links, fitted => .ok (b, links, fitted)
  | limit + 1, b, links, fitted => do
    let (matched, added) ← b.round range
    if added = 0 then return (matched, links, fitted)
    else
      let (fit, count) ← matched.fitAll
      moreRounds range limit fit (links + added) count

/-- **The settled board**, with a report. -/
def settle (b : Board) (range : Float32) : Except Fault (Board × Report) := do
  let (matched, links) ← b.unlink.round range
  let (fit, fitted) ← matched.fitAll
  let (settled, links, fitted) ←
    if links = 0 then pure (fit, links, fitted) else moreRounds range b.size fit links fitted
  return (settled, ⟨links, settled.heads.length, fitted⟩)

/-! ## The order of fitting -/

theorem insertByDepth_perm (entry : Nat × BlockId) (entries : List (Nat × BlockId)) :
    (insertByDepth entry entries).Perm (entry :: entries) := by
  induction entries with
  | nil => exact .refl _
  | cons other rest ih =>
    unfold insertByDepth
    split
    · exact .refl _
    · exact (ih.cons other).trans (.swap ..)

/-- Sorting by depth loses and repeats nothing. -/
theorem sortByDepth_perm (entries : List (Nat × BlockId)) :
    (sortByDepth entries).Perm entries := by
  induction entries with
  | nil => exact .refl _
  | cons entry rest ih => exact (insertByDepth_perm entry _).trans (ih.cons entry)

theorem insertByDepth_sorted (entry : Nat × BlockId) {entries : List (Nat × BlockId)}
    (h : entries.Pairwise fun p q => q.1 ≤ p.1) :
    (insertByDepth entry entries).Pairwise fun p q => q.1 ≤ p.1 := by
  induction entries with
  | nil => simp [insertByDepth]
  | cons other rest ih =>
    obtain ⟨first, ordered⟩ := List.pairwise_cons.1 h
    unfold insertByDepth
    split
    · rename_i le
      refine List.pairwise_cons.2 ⟨fun p mem => ?_, h⟩
      rcases List.mem_cons.1 mem with rfl | mem
      · exact le
      · exact Nat.le_trans (first p mem) le
    · rename_i lt
      refine List.pairwise_cons.2 ⟨fun p mem => ?_, ih ordered⟩
      rcases List.mem_cons.1 ((insertByDepth_perm entry rest).mem_iff.1 mem) with rfl | mem
      · omega
      · exact first p mem

/-- Sorting by depth puts no block behind a shallower one. -/
theorem sortByDepth_sorted (entries : List (Nat × BlockId)) :
    (sortByDepth entries).Pairwise fun p q => q.1 ≤ p.1 := by
  induction entries with
  | nil => exact .nil
  | cons entry rest ih => exact insertByDepth_sorted entry ih

end Board

end SnapBlocks
