import SnapBlocks.Geometry

/-!
# Kinds of blocks

Every block has one of seven kinds. The kind alone decides which slots the block
owns, how wide its header is, what the user can type into it, and which line of
the program it stands for. What is said here about a kind never depends on where
a block lies or on what it is attached to.

The palette is the table of names under which the user picks a kind: `palette`
lists the kinds, `Kind.label` names them, and `Kind.ofLabel?` finds
one again.
-/

namespace SnapBlocks

/-- The side of the grid on which blocks are laid out. -/
def unit : Float32 := 50

/-- **The construct a nest opens.** -/
inductive Form where
  /-- A body that runs under a condition. -/
  | conditional
  /-- A body of members of a class. -/
  | classBody
  /-- A body that is run when it is called by name. -/
  | definition
deriving DecidableEq, Repr

/-- **The role of a block in a program.** -/
inductive Kind where
  /-- Applies its code to the attached argument. -/
  | apply
  /-- A bare expression, taken up by the argument slot of another block. -/
  | expression
  /-- Opens an indented body. -/
  | nest (form : Form)
  /-- Assigns the attached argument to the name in its code. -/
  | assign
  /-- Calls the name in its code without an argument. -/
  | call
deriving DecidableEq, Repr

namespace Form

/-- The caption on the header of a nest of this form. -/
def caption : Form → String
  | conditional => "If"
  | classBody => "Class"
  | definition => "define"

/-- The name of the form in messages. -/
def title : Form → String
  | conditional => "If"
  | classBody => "Class"
  | definition => "Define"

end Form

namespace Kind

/-- Whether a block of this kind is attached as an argument, and so owns no slot. -/
def isInline : Kind → Bool
  | expression => true
  | _ => false

/-- Whether a block of this kind opens a body. -/
def hasBody : Kind → Bool
  | nest _ => true
  | _ => false

/-- Whether a block of this kind owns an argument slot. -/
def takesArgument : Kind → Bool
  | apply | assign | nest _ => true
  | expression | call => false

/-- Whether the user types the code of a block of this kind into a text field. -/
def isEditable : Kind → Bool
  | expression | assign | call | nest .definition => true
  | apply | nest .conditional | nest .classBody => false

/-- Width of the header; the argument slot lies on its right edge. -/
def width : Kind → Float32
  | apply | expression | nest .conditional | nest .classBody => unit * 2
  | assign | call | nest .definition => unit * 4

/-- The code of a freshly placed block. -/
def initialCode : Kind → String
  | apply => "print"
  | nest .conditional => "if"
  | nest .classBody => "class"
  | nest .definition | expression | assign | call => ""

/-- What a program shows in place of a missing argument. -/
def placeholder : Kind → String
  | assign => "None"
  | nest .conditional => "True"
  | nest .classBody => "Foo"
  | apply | nest .definition | expression | call => ""

/-- The fixed caption on the header; a kind without one shows its code. -/
def caption? : Kind → Option String
  | apply | expression => none
  | nest form => some form.caption
  | assign => some "Declare"
  | call => some "Call"

/-- The name of the kind in messages. -/
def title : Kind → String
  | apply => "Function"
  | expression => "Argument"
  | nest form => s!"Nest({form.title})"
  | assign => "Declare"
  | call => "Call"

/-! ## The palette -/

/-- The name of the palette entry that places this kind. -/
def label : Kind → String
  | apply => "print"
  | expression => "elem"
  | nest .conditional => "if"
  | nest .classBody => "object"
  | nest .definition => "define"
  | assign => "variable"
  | call => "call"

/-- Every kind, in palette order. -/
def palette : List Kind :=
  [apply, expression, nest .conditional, nest .classBody, nest .definition, assign, call]

/-- The kind of the palette entry with this exact name. -/
def ofLabel? (name : String) : Option Kind :=
  palette.find? (·.label == name)

/-- The palette is complete. -/
theorem mem_palette (kind : Kind) : kind ∈ palette := by
  cases kind with
  | nest form => cases form <;> simp [palette]
  | _ => simp [palette]

/-- A palette name leads back to the kind it names. -/
@[simp] theorem ofLabel?_label (kind : Kind) :
    ofLabel? kind.label = some kind := by
  cases kind with
  | nest form => cases form <;> decide
  | _ => decide

end Kind

end SnapBlocks
