/-!
# Points and rectangles

Everything on the canvas is placed with binary32 coordinates: `x` grows to the
right and `y` grows downward. All arithmetic rounds operation by operation, so
two ways of writing the same sum need not agree, and nothing in this library
reassociates one.

Two notions of equality of points are kept apart. `p = q` is **identity**: the
same coordinates bit for bit, where all NaNs are one value. `p.sameAs q` is
**numeric** equality, under which the two zeros agree and a NaN agrees with
nothing.
-/

namespace SnapBlocks

/-- A position on the canvas, or the displacement between two positions. -/
structure Point where
  /-- Distance to the right. -/
  x : Float32
  /-- Distance downward. -/
  y : Float32
deriving DecidableEq, Repr

namespace Point

/-- The top left corner of the canvas, and the displacement that moves nothing. -/
def origin : Point := ⟨0, 0⟩

instance : Inhabited Point := ⟨origin⟩

instance : Add Point := ⟨fun p q => ⟨p.x + q.x, p.y + q.y⟩⟩

instance : Sub Point := ⟨fun p q => ⟨p.x - q.x, p.y - q.y⟩⟩

instance : Neg Point := ⟨fun p => ⟨-p.x, -p.y⟩⟩

@[simp] theorem add_x (p q : Point) : (p + q).x = p.x + q.x := rfl

@[simp] theorem add_y (p q : Point) : (p + q).y = p.y + q.y := rfl

@[simp] theorem sub_x (p q : Point) : (p - q).x = p.x - q.x := rfl

@[simp] theorem sub_y (p q : Point) : (p - q).y = p.y - q.y := rfl

@[simp] theorem neg_x (p : Point) : (-p).x = -p.x := rfl

@[simp] theorem neg_y (p : Point) : (-p).y = -p.y := rfl

/-- Euclidean length. Both squares are binary32 values, so a long vector has
length infinity and a very short one has length zero. -/
def norm (p : Point) : Float32 :=
  (p.x * p.x + p.y * p.y).sqrt

/-- Euclidean distance from one point to another. -/
def distance (p q : Point) : Float32 :=
  (q - p).norm

/-- Whether both coordinates are zero, of either sign. -/
def isZero (p : Point) : Bool :=
  p.x == 0 && p.y == 0

/-- Numeric equality: the two zeros agree and a NaN agrees with nothing. -/
def sameAs (p q : Point) : Bool :=
  p.x == q.x && p.y == q.y

end Point

/-- An axis-aligned rectangle; `(x, y)` is its top left corner. -/
structure Rect where
  /-- Left edge. -/
  x : Float32
  /-- Top edge. -/
  y : Float32
  /-- Horizontal span. -/
  width : Float32
  /-- Vertical span. -/
  height : Float32
deriving DecidableEq, Repr

namespace Rect

/-- The rectangle of no size in the top left corner of the canvas. -/
def empty : Rect := ⟨0, 0, 0, 0⟩

instance : Inhabited Rect := ⟨empty⟩

/-- The top left corner. -/
def corner (r : Rect) : Point := ⟨r.x, r.y⟩

/-- Whether a point lies in the rectangle, its edges included. A point or a
rectangle with a NaN contains nothing and lies nowhere. -/
def contains (r : Rect) (p : Point) : Bool :=
  r.x ≤ p.x && p.x ≤ r.x + r.width && r.y ≤ p.y && p.y ≤ r.y + r.height

/-- A span cut down to zero from below; what is not a number becomes zero too. -/
def clampSpan (span : Float32) : Float32 :=
  if 0 < span then span else 0

/-- The rectangle shrunk by `amount` on every side; a side too short for that
collapses to zero. -/
def inset (r : Rect) (amount : Float32) : Rect :=
  ⟨r.x + amount, r.y + amount, clampSpan (r.width - amount * 2), clampSpan (r.height - amount * 2)⟩

/-- The rectangle moved by a displacement. -/
def translate (r : Rect) (delta : Point) : Rect :=
  ⟨r.x + delta.x, r.y + delta.y, r.width, r.height⟩

end Rect

end SnapBlocks
