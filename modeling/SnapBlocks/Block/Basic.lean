import SnapBlocks.Block.Slot

/-!
# Blocks

A block is a record of what it stands for (`kind`, `code`), where it lies, and
what it is linked to. Its geometry is kept point by point and not recomputed
from the start point: the points of a block are laid out once, by `Block.place`,
and from then on each is moved by the same displacements, so that in binary32
they may drift apart by a rounding. Only `pin` and `resize` set a point outright.

A nest carries a `Mouth`: the place where its body is attached, the vertical bar
that runs along the body, and the length of that bar. The finish of a nest is
the lower left corner of the marker that closes the bar.
-/

namespace SnapBlocks

/-- Thickness of the bar of a nest and of its closing marker. -/
def barWidth : Float32 := unit / 3

/-- Width of the closing marker. -/
def markerLength : Float32 := unit * 4

/-- Width of the coloured frame around the face of a header. -/
def frameInset : Float32 := 3

/-- Length of the bar of a nest whose body is empty. -/
def emptyExtent : Float32 := unit

/-- What one plain block in a body adds to the length of the bar. -/
def plainExtent : Float32 := unit

/-- **The open side of a nest.** -/
structure Mouth where
  /-- The construct that the nest opens. -/
  form : Form
  /-- Where the first block of the body is attached. -/
  entry : Point
  /-- The top of the bar. -/
  bar : Point
  /-- The length of the bar. -/
  extent : Float32
deriving DecidableEq, Repr

namespace Mouth

/-- The mouth of an empty nest whose header starts at `origin`. -/
def place (form : Form) (origin : Point) : Mouth :=
  ⟨form, origin + ⟨barWidth, unit⟩, origin + ⟨0, unit⟩, emptyExtent⟩

/-- The upper left corner of the closing marker. -/
def marker (m : Mouth) : Point := ⟨m.bar.x, m.bar.y + m.extent⟩

/-- The lower left corner of the closing marker. -/
def finish (m : Mouth) : Point := ⟨m.marker.x, m.marker.y + barWidth⟩

/-- The mouth moved by a displacement; the bar keeps its length. -/
def translate (m : Mouth) (delta : Point) : Mouth :=
  { m with entry := m.entry + delta, bar := m.bar + delta }

/-- The mouth with a bar of another length. -/
def resize (m : Mouth) (extent : Float32) : Mouth :=
  { m with extent := extent }

/-- The rectangle of the bar. -/
def barArea (m : Mouth) : Rect := ⟨m.bar.x, m.bar.y, barWidth, m.extent⟩

/-- The rectangle of the closing marker. -/
def markerArea (m : Mouth) : Rect := ⟨m.marker.x, m.marker.y, markerLength, barWidth⟩

@[simp] theorem form_translate (m : Mouth) (delta : Point) : (m.translate delta).form = m.form :=
  rfl

@[simp] theorem entry_translate (m : Mouth) (delta : Point) :
    (m.translate delta).entry = m.entry + delta := rfl

/-- The bar goes where the place of the body goes. -/
@[simp] theorem bar_translate (m : Mouth) (delta : Point) :
    (m.translate delta).bar = m.bar + delta := rfl

@[simp] theorem extent_translate (m : Mouth) (delta : Point) :
    (m.translate delta).extent = m.extent := rfl

end Mouth

/-- **One block on the board.** -/
structure Block where
  /-- The role of the block. -/
  kind : Kind
  /-- The text that the block contributes to a program. -/
  code : String
  /-- The upper left corner of the header; the point by which the block is attached. -/
  start : Point
  /-- Where a successor is attached. -/
  finish : Point
  /-- Where an argument is attached. -/
  socket : Option Point
  /-- The open side of a nest. -/
  mouth : Option Mouth
  /-- The attached blocks. -/
  links : Links
deriving DecidableEq, Repr

namespace Block

/-- **A fresh block** with its start at `origin`. A plain block finishes one unit
below its start, a nest at the foot of its closing marker. -/
def place (kind : Kind) (origin : Point) : Block where
  kind := kind
  code := kind.initialCode
  start := origin
  finish := match kind with
    | .nest form => (Mouth.place form origin).finish
    | _ => origin + ⟨0, unit⟩
  socket := if kind.takesArgument then some (origin + ⟨kind.width, 0⟩) else none
  mouth := match kind with
    | .nest form => some (Mouth.place form origin)
    | _ => none
  links := .none

/-- The block with another text. -/
def recode (b : Block) (code : String) : Block := { b with code := code }

/-- The block with other links. -/
def withLinks (b : Block) (links : Links) : Block := { b with links := links }

/-- The block with every point moved by a displacement. Attached blocks are not
moved with it; that is `Board.carry`. -/
def translate (b : Block) (delta : Point) : Block :=
  { b with
    start := b.start + delta
    finish := b.finish + delta
    socket := b.socket.map (· + delta)
    mouth := b.mouth.map (·.translate delta) }

/-- The block with its start set to `target`; no other point changes. -/
def pin (b : Block) (target : Point) : Block := { b with start := target }

/-- Vertical span from the start to the finish. -/
def height (b : Block) : Float32 := b.finish.y - b.start.y

/-- **The block with a bar of another length** and its finish at the foot of the
new marker. A block without a mouth stays as it is. -/
def resize (b : Block) (extent : Float32) : Block :=
  match b.mouth with
  | none => b
  | some m => { b with mouth := some (m.resize extent), finish := (m.resize extent).finish }

/-- How far the finish moves when the bar takes another length; not at all for
a block without a mouth. -/
def growth (b : Block) (extent : Float32) : Point :=
  match b.mouth with
  | none => .origin
  | some m => (m.resize extent).finish - b.finish

/-- **The position of a slot**, if the block owns it. Every kind but an
expression has a next slot, at its finish. -/
def spot? (b : Block) : Slot → Option Point
  | .next => if b.kind.isInline then none else some b.finish
  | .argument => b.socket
  | .body => b.mouth.map (·.entry)

/-! ## The area of a block -/

/-- The rectangle of the header. -/
def header (b : Block) : Rect := ⟨b.start.x, b.start.y, b.kind.width, unit⟩

/-- The rectangle of the bar of a nest. -/
def barArea? (b : Block) : Option Rect := b.mouth.map (·.barArea)

/-- The rectangle of the closing marker of a nest. -/
def markerArea? (b : Block) : Option Rect := b.mouth.map (·.markerArea)

/-- Every rectangle that the block covers on the canvas. -/
def areas (b : Block) : List Rect :=
  b.header :: (b.barArea?.toList ++ b.markerArea?.toList)

/-- Whether the block covers a point. -/
def covers (b : Block) (p : Point) : Bool := b.areas.any (·.contains p)

/-! ## What the operations keep -/

@[simp] theorem kind_place (kind : Kind) (origin : Point) : (place kind origin).kind = kind := rfl

@[simp] theorem start_place (kind : Kind) (origin : Point) :
    (place kind origin).start = origin := rfl

@[simp] theorem links_place (kind : Kind) (origin : Point) :
    (place kind origin).links = .none := rfl

@[simp] theorem kind_translate (b : Block) (delta : Point) :
    (b.translate delta).kind = b.kind := rfl

@[simp] theorem code_translate (b : Block) (delta : Point) :
    (b.translate delta).code = b.code := rfl

@[simp] theorem links_translate (b : Block) (delta : Point) :
    (b.translate delta).links = b.links := rfl

@[simp] theorem start_translate (b : Block) (delta : Point) :
    (b.translate delta).start = b.start + delta := rfl

@[simp] theorem finish_translate (b : Block) (delta : Point) :
    (b.translate delta).finish = b.finish + delta := rfl

@[simp] theorem socket_translate (b : Block) (delta : Point) :
    (b.translate delta).socket = b.socket.map (· + delta) := rfl

@[simp] theorem mouth_translate (b : Block) (delta : Point) :
    (b.translate delta).mouth = b.mouth.map (·.translate delta) := rfl

@[simp] theorem kind_pin (b : Block) (target : Point) : (b.pin target).kind = b.kind := rfl

@[simp] theorem links_pin (b : Block) (target : Point) : (b.pin target).links = b.links := rfl

@[simp] theorem kind_resize (b : Block) (extent : Float32) : (b.resize extent).kind = b.kind := by
  unfold resize; split <;> rfl

@[simp] theorem code_resize (b : Block) (extent : Float32) : (b.resize extent).code = b.code := by
  unfold resize; split <;> rfl

@[simp] theorem start_resize (b : Block) (extent : Float32) :
    (b.resize extent).start = b.start := by
  unfold resize; split <;> rfl

@[simp] theorem socket_resize (b : Block) (extent : Float32) :
    (b.resize extent).socket = b.socket := by
  unfold resize; split <;> rfl

@[simp] theorem links_resize (b : Block) (extent : Float32) :
    (b.resize extent).links = b.links := by
  unfold resize; split <;> rfl

end Block

end SnapBlocks
