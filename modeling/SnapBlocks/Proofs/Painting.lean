import Mathlib.Data.List.Basic
import Mathlib.Data.List.Nodup
import SnapBlocks.Drawing
import SnapBlocks.Editor.Basic
import SnapBlocks.Proofs.Forest

/-!
# What is painted on top is what is picked

The eye and the pointer take different ways to a block. What is seen at a point is the
solid mark that was painted there last, in a drawing where every block leaves up to three
solid marks between others. What is picked is found without a drawing, by asking each
block for the rectangles that it covers and keeping the last block that covers the point.

Both come to the same (`Editor.picks_what_is_painted`). A block covers a point exactly if
one of its solid marks does (`Block.any_draw`), since the face and the text of a header
lie on its frame and are not solid; and the marks of a block are painted in one go, so
the last mark at a point is one of the last block there. Nothing is asked of the
coordinates: a rectangle is handed on as it is, and whether it contains a point is asked
in the same words on both ways.
-/

namespace SnapBlocks

/-- Whether the mark is solid and lies over the point. -/
def Mark.hides (mark : Mark) (p : Point) : Bool := mark.isSolid && mark.area.contains p

theorem Mark.hides_iff {mark : Mark} {p : Point} : mark.hides p = true ↔
    ∃ part area color, mark = .shape part area color ∧ part ≠ .face ∧ area.contains p = true := by
  constructor
  · intro hides
    obtain ⟨solid, contains⟩ := (Bool.and_eq_true ..).mp hides
    cases mark with
    | label | field => cases solid
    | shape part area color =>
      refine ⟨part, area, color, rfl, ?_, contains⟩
      rintro rfl
      cases solid
  · rintro ⟨part, area, color, rfl, solid, contains⟩
    cases part with
    | face => exact absurd rfl solid
    | frame | bar | marker => exact contains

/-! ## The last of several -/

/-- **The last hit of several groups is a hit of the last group that has one.** -/
theorem getLast?_filter_flatMap {α β γ : Type} {group : α → List β} (hit : β → Bool)
    {owner : β → γ} {name : α → γ} (owned : ∀ a, ∀ x ∈ group a, owner x = name a) (l : List α) :
    ((l.flatMap group).filter hit).getLast?.map owner
      = (l.filter fun a => (group a).any hit).getLast?.map name := by
  induction l using List.reverseRecOn with
  | nil => rfl
  | append_singleton l a ih =>
    rw [List.flatMap_append, List.flatMap_singleton, List.filter_append, List.filter_append,
      List.filter_singleton]
    cases hits : (group a).any hit with
    | false =>
      have nothing : (group a).filter hit = [] := by
        rw [List.filter_eq_nil_iff]
        exact fun x mem => List.any_eq_false.mp hits x mem
      rw [nothing, List.append_nil, cond_false, List.append_nil, ih]
    | true =>
      obtain ⟨x, mem, hit_x⟩ := List.any_eq_true.mp hits
      have some_hit : (group a).filter hit ≠ [] :=
        List.ne_nil_of_mem (List.mem_filter.mpr ⟨mem, hit_x⟩)
      have last := List.getLast_mem some_hit
      rw [cond_true, List.getLast?_concat, List.getLast?_append_of_ne_nil _ some_hit,
        List.getLast?_eq_some_getLast some_hit, Option.map_some, Option.map_some,
        owned a _ (List.mem_filter.mp last).1]

/-- The last of rising numbers is the greatest. -/
theorem getLast?_eq_some_iff_of_pairwise {l : List Nat} (rising : l.Pairwise (· < ·)) {n : Nat} :
    l.getLast? = some n ↔ n ∈ l ∧ ∀ m ∈ l, m ≤ n := by
  have greatest : ∀ {n}, l.getLast? = some n → ∀ m ∈ l, m ≤ n := by
    intro n last m mem
    obtain ⟨front, rfl⟩ := List.getLast?_eq_some_iff.mp last
    rcases List.mem_append.mp mem with mem | mem
    · exact ((List.pairwise_append.mp rising).2.2 m mem n List.mem_cons_self).le
    · exact (List.mem_singleton.mp mem).le
  constructor
  · exact fun last => ⟨List.mem_of_getLast? last, greatest last⟩
  · rintro ⟨mem, above⟩
    obtain ⟨m, last⟩ := Option.isSome_iff_exists.mp
      (List.getLast?_isSome.mpr (List.ne_nil_of_mem mem))
    rw [last, Nat.le_antisymm (above m (List.mem_of_getLast? last)) (greatest last n mem)]

/-! ## One block -/

namespace Block

/-- The text on a header is not solid. -/
theorem any_inscription (block : Block) (id : BlockId) (p : Point) :
    (block.inscription id).any (·.hides p) = false := by
  unfold inscription
  dsimp only
  split <;> rfl

/-- **A block covers a point exactly if one of its solid marks does.** -/
theorem any_draw (block : Block) (id : BlockId) (p : Point) :
    (block.draw id).any (·.hides p) = block.covers p := by
  have shape : ∀ (part : Part) (area : Option Rect), part ≠ .face →
      (area.map (Mark.shape part · block.kind.color)).toList.any (·.hides p)
        = area.toList.any (·.contains p) := by
    intro part area solid
    cases area with
    | none => rfl
    | some area => cases part <;> first | exact absurd rfl solid | rfl
  rw [draw, covers, areas, List.any_cons, List.any_cons, List.any_append, List.any_append,
    any_inscription, shape .bar _ nofun, shape .marker _ nofun, List.any_cons, List.any_append,
    Bool.or_false]
  rfl

end Block

/-! ## The whole board -/

namespace Board

variable {b : Board} {id : BlockId} {p : Point}

/-- **What is seen at a point**: the block to which the last solid mark there belongs. -/
def seen? (b : Board) (p : Point) : Option BlockId :=
  (b.painting.filter fun (_, mark) => mark.hides p).getLast?.map Prod.fst

/-- Whether there is a block of this name that covers the point. -/
def coversAt (b : Board) (p : Point) (id : BlockId) : Bool := (b.get? id).any (·.covers p)

/-- What is picked is the last block that covers the point. -/
theorem pick?_eq (b : Board) (p : Point) : b.pick? p = (b.ids.filter (b.coversAt p)).getLast? := by
  have names : (b.named.filter fun item => item.2.covers p).map Prod.fst
      = b.ids.filter (b.coversAt p) := by
    rw [named, List.filter_filterMap, List.map_filterMap, ← List.filterMap_eq_filter]
    refine List.filterMap_congr fun id _ => ?_
    rw [Option.guard, coversAt]
    cases b.get? id with
    | none => rfl
    | some block => cases covers : block.covers p <;> simp [covers]
  rw [pick?, topmost?, List.filter_map, List.getLast?_map, Option.map_map, ← names,
    List.getLast?_map]
  rfl

/-- **What is seen is the last block that covers the point.** -/
theorem seen?_eq_pick? (b : Board) (p : Point) : b.seen? p = b.pick? p := by
  have owned : ∀ item : BlockId × Block, ∀ mark ∈ (item.2.draw item.1).map (item.1, ·),
      mark.1 = item.1 := by
    intro item mark mem
    obtain ⟨_, -, rfl⟩ := List.mem_map.mp mem
    rfl
  have covered : ∀ item : BlockId × Block,
      ((item.2.draw item.1).map (item.1, ·)).any (fun (_, mark) => mark.hides p)
        = item.2.covers p := by
    intro item
    rw [List.any_map, ← item.2.any_draw item.1 p]
    rfl
  have last := getLast?_filter_flatMap (fun (_, mark) => mark.hides p) owned b.named
  rw [seen?, painting, pick?, topmost?, List.filter_map, List.getLast?_map, Option.map_map]
  refine last.trans ?_
  congr 2
  exact List.filter_congr fun item _ => covered item

/-- The marks of a painting are those of the blocks of the board. -/
theorem mem_painting {mark : Mark} :
    (id, mark) ∈ b.painting ↔ ∃ block, b.get? id = some block ∧ mark ∈ block.draw id := by
  rw [painting, List.mem_flatMap]
  constructor
  · rintro ⟨⟨other, block⟩, named, mem⟩
    obtain ⟨_, mem, same⟩ := List.mem_map.mp mem
    cases same
    obtain ⟨_, -, found⟩ := List.mem_filterMap.mp named
    obtain ⟨_, found, same⟩ := Option.map_eq_some_iff.mp found
    cases same
    exact ⟨block, found, mem⟩
  · rintro ⟨block, found, mem⟩
    refine ⟨(id, block), ?_, List.mem_map.mpr ⟨mark, mem, rfl⟩⟩
    exact List.mem_filterMap.mpr ⟨id, mem_ids.mpr (lt_of_get? found), by rw [found]; rfl⟩

/-- A block of the board covers a point exactly if a solid mark of it was painted there. -/
theorem coversAt_iff :
    b.coversAt p id = true ↔ ∃ mark, (id, mark) ∈ b.painting ∧ mark.hides p = true := by
  rw [coversAt, Option.any_eq_true]
  constructor
  · rintro ⟨block, found, covers⟩
    rw [← block.any_draw id p] at covers
    obtain ⟨mark, mem, hides⟩ := List.any_eq_true.mp covers
    exact ⟨mark, mem_painting.mpr ⟨block, found, mem⟩, hides⟩
  · rintro ⟨mark, painted, hides⟩
    obtain ⟨block, found, mem⟩ := mem_painting.mp painted
    refine ⟨block, found, ?_⟩
    rw [← block.any_draw id p]
    exact List.any_eq_true.mpr ⟨mark, mem, hides⟩

/-- **What is picked is the greatest name of a block that covers the point.** -/
theorem pick?_eq_some_iff : b.pick? p = some id ↔
    b.coversAt p id = true ∧ ∀ other, b.coversAt p other = true → other ≤ id := by
  have on_board : ∀ {other}, b.coversAt p other = true → other ∈ b.ids := by
    intro other covers
    obtain ⟨block, found, -⟩ := (Option.any_eq_true ..).mp covers
    exact mem_ids.mpr (lt_of_get? found)
  have rising : (b.ids.filter (b.coversAt p)).Pairwise (· < ·) := List.pairwise_lt_range.filter _
  rw [pick?_eq, getLast?_eq_some_iff_of_pairwise rising, List.mem_filter]
  constructor
  · rintro ⟨⟨-, covers⟩, greatest⟩
    exact ⟨covers, fun other h => greatest other (List.mem_filter.mpr ⟨on_board h, h⟩)⟩
  · rintro ⟨covers, greatest⟩
    exact ⟨⟨on_board covers, covers⟩, fun other mem => greatest other (List.mem_filter.mp mem).2⟩

/-- **Nothing is picked exactly if no solid mark was painted over the point.** -/
theorem pick?_eq_none_iff :
    b.pick? p = none ↔ ∀ id mark, (id, mark) ∈ b.painting → mark.hides p = false := by
  rw [pick?_eq, List.getLast?_eq_none_iff, List.filter_eq_nil_iff]
  constructor
  · intro never id mark painted
    rw [Bool.eq_false_iff]
    intro hides
    have covers := coversAt_iff.mpr ⟨mark, painted, hides⟩
    obtain ⟨block, found, -⟩ := (Option.any_eq_true ..).mp covers
    exact never id (mem_ids.mpr (lt_of_get? found)) covers
  · intro never id _ covers
    obtain ⟨mark, painted, hides⟩ := coversAt_iff.mp covers
    rw [never id mark painted] at hides
    cases hides

end Board

/-- Pressing the left button with an empty hand picks up what is picked at the point. -/
theorem Editor.press_eq_pick? {e : Editor} (free : e.hand.isBusy = false) (p : Point) :
    (e.press .left p).2 = e.board.pick? p := by
  rw [Editor.press, free]
  cases e.board.pick? p <;> rfl

/-- **What is painted on top is what is picked.** On any board and at any point, the block
that is picked is the one whose frame, bar or closing marker was painted last over the
point. No block is picked exactly if no frame, bar or marker was painted there. It is the
block of the greatest name among those that cover the point. The left button, pressed
there with an empty hand, picks up this block, or nothing. -/
theorem Editor.picks_what_is_painted (e : Editor) (p : Point) :
    e.board.pick? p = e.board.seen? p ∧
    (e.board.pick? p = none ↔ ∀ id part area color,
      (id, .shape part area color) ∈ e.board.painting → part ≠ .face → area.contains p = false) ∧
    (∀ id, e.board.pick? p = some id ↔
      (∃ block, e.board.get? id = some block ∧ block.covers p = true) ∧
        ∀ other block, e.board.get? other = some block → block.covers p = true → other ≤ id) ∧
    (e.hand.isBusy = false → (e.press .left p).2 = e.board.seen? p) := by
  have seen := e.board.seen?_eq_pick? p
  refine ⟨seen.symm, ?_, fun id => ?_, fun free => (press_eq_pick? free p).trans seen.symm⟩
  · rw [Board.pick?_eq_none_iff]
    constructor
    · intro never id part area color painted solid
      rw [Bool.eq_false_iff]
      intro contains
      refine Bool.eq_false_iff.mp (never id _ painted) ?_
      exact Mark.hides_iff.mpr ⟨part, area, color, rfl, solid, contains⟩
    · intro never id mark painted
      rw [Bool.eq_false_iff]
      intro hides
      obtain ⟨part, area, color, rfl, solid, contains⟩ := Mark.hides_iff.mp hides
      exact Bool.eq_false_iff.mp (never id part area color painted solid) contains
  · rw [Board.pick?_eq_some_iff]
    simp only [Board.coversAt, Option.any_eq_true]
    constructor
    · rintro ⟨covers, greatest⟩
      exact ⟨covers, fun other block found h => greatest other ⟨block, found, h⟩⟩
    · rintro ⟨covers, greatest⟩
      exact ⟨covers, fun other ⟨block, found, h⟩ => greatest other block found h⟩

/-- A conditional with a call laid over its header, and a call that lies nowhere. -/
def overlaid : Editor :=
  let conditional := ((Editor.new standardRange).place (.nest .conditional) .origin).1
  ((conditional.place .call ⟨50, 20⟩).1.place .call ⟨0 / 0, 0⟩).1

/-- Where both lie the call is seen and picked up, on the bar the conditional is, and
between the bar and the call the view is open. -/
theorem Editor.picks_what_is_painted_overlaid :
    overlaid.board.seen? ⟨60, 30⟩ = some 1 ∧ (overlaid.press .left ⟨60, 30⟩).2 = some 1 ∧
    overlaid.board.seen? ⟨5, 70⟩ = some 0 ∧ (overlaid.press .left ⟨5, 70⟩).2 = some 0 ∧
    ∀ id part area color, (id, .shape part area color) ∈ overlaid.board.painting →
      part ≠ .face → area.contains ⟨30, 80⟩ = false := by
  obtain ⟨laid, -, -, press_laid⟩ := overlaid.picks_what_is_painted ⟨60, 30⟩
  obtain ⟨beside, -, -, press_beside⟩ := overlaid.picks_what_is_painted ⟨5, 70⟩
  obtain ⟨-, clear, -, -⟩ := overlaid.picks_what_is_painted ⟨30, 80⟩
  have picks : overlaid.board.pick? ⟨60, 30⟩ = some 1 ∧ overlaid.board.pick? ⟨5, 70⟩ = some 0 ∧
      overlaid.board.pick? ⟨30, 80⟩ = none := by
    decide +kernel
  rw [picks.1] at laid
  rw [picks.2.1] at beside
  exact ⟨laid.symm, (press_laid rfl).trans laid.symm, beside.symm,
    (press_beside rfl).trans beside.symm, clear.mp picks.2.2⟩

end SnapBlocks
