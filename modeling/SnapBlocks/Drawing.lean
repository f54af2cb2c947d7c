import SnapBlocks.Board.Basic

/-!
# Drawing

A board is drawn block by block, in order of placement, so later blocks lie on
top. A block is a handful of marks: the coloured frame and white face of its
header, for a nest the bar and the closing marker, and then the text on the
header, which is a fixed caption, a field to type in, or both side by side.

A drawing is the list of marks in the order in which they are painted. The
painting of a board also keeps which block painted which mark; that is what
picking with the pointer is compared with.
-/

namespace SnapBlocks

/-- A colour, one byte for each component. -/
structure Color where
  /-- Opacity. -/
  alpha : UInt8
  /-- Red part. -/
  red : UInt8
  /-- Green part. -/
  green : UInt8
  /-- Blue part. -/
  blue : UInt8
deriving DecidableEq, Repr

/-- The colour of the face of every header. -/
def faceColor : Color := ⟨255, 255, 255, 255⟩

/-- The colour of the frame, the bar and the closing marker of a block. -/
def Kind.color : Kind → Color
  | .apply => ⟨255, 255, 0, 0⟩
  | .expression => ⟨255, 0, 255, 0⟩
  | .nest .conditional => ⟨255, 0, 0, 255⟩
  | .nest .classBody => ⟨255, 179, 179, 179⟩
  | .nest .definition | .assign => ⟨255, 128, 77, 179⟩
  | .call => ⟨255, 255, 255, 0⟩

/-- **The part of a block that a rectangle shows.** -/
inductive Part where
  /-- The coloured outline of the header. -/
  | frame
  /-- The white interior of the header. -/
  | face
  /-- The bar along the body of a nest. -/
  | bar
  /-- The marker that closes the body of a nest. -/
  | marker
deriving DecidableEq, Repr

/-- **One mark of a drawing.** -/
inductive Mark where
  /-- A filled rectangle. -/
  | shape (part : Part) (area : Rect) (color : Color)
  /-- Fixed text. -/
  | label (text : String) (area : Rect)
  /-- A field in which the code of a block is edited. -/
  | field (block : BlockId) (area : Rect) (text : String)
deriving DecidableEq, Repr

/-- Whether the mark is a coloured rectangle, one that shows what a block covers. -/
def Mark.isSolid : Mark → Bool
  | .shape .face _ _ => false
  | .shape _ _ _ => true
  | _ => false

/-- The rectangle that the mark fills. -/
def Mark.area : Mark → Rect
  | .shape _ area _ => area
  | .label _ area => area
  | .field _ area _ => area

/-- The smaller of two spans; what is not a number is passed over. -/
def smallerSpan (a b : Float32) : Float32 :=
  if b.isNaN || a < b then a else b

namespace Block

/-- The face of the header, inside its frame. -/
def face (b : Block) : Rect := b.header.inset frameInset

/-- **The text on the header of a block.** Where there are both a caption and a
field, the caption gets the first unit of the face and the field the rest. -/
def inscription (b : Block) (id : BlockId) : List Mark :=
  let face := b.face
  match b.kind.caption?, b.kind.isEditable with
  | some caption, true =>
    let width := smallerSpan unit face.width
    [.label caption { face with width := width },
      .field id { face with x := face.x + width, width := face.width - width } b.code]
  | none, true => [.field id face b.code]
  | caption?, false => [.label (caption?.getD b.code) face]

/-- **The marks of one block**, in the order in which they are painted. -/
def draw (b : Block) (id : BlockId) : List Mark :=
  .shape .frame b.header b.kind.color :: .shape .face b.face faceColor ::
    ((b.barArea?.map (.shape .bar · b.kind.color)).toList ++
      ((b.markerArea?.map (.shape .marker · b.kind.color)).toList ++ b.inscription id))

end Block

namespace Board

/-- **The painting of a board**: every mark with the block that it belongs to. -/
def painting (b : Board) : List (BlockId × Mark) :=
  b.named.flatMap fun (id, block) => (block.draw id).map (id, ·)

/-- **The drawing of a board.** -/
def draw (b : Board) : List Mark := b.painting.map Prod.snd

end Board

end SnapBlocks
