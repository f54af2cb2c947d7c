import SnapBlocks.Host.Shell.Token

/-!
# Reading words

What a character means depends on where it stands: bare, between quotation marks of
one kind or the other, or in an arithmetic expression. The operand of a parameter
stands in the same surroundings as the parameter itself, but for patterns, whose
surroundings are always bare. So the surroundings form a stack, of which each layer
counts the braces and parentheses opened in it.

A word in the making is a **draft**. Beside the layers it holds the levels, which
are the operands and expressions opened and not yet closed, each with the pieces in
front of it. The text of a here-document is read in the same way, from line to line.
-/

namespace SnapBlocks.Host.Shell

/-- **The surroundings of a character.** -/
inductive Setting where
  /-- No quotation. -/
  | bare
  /-- Between double quotation marks. -/
  | double
  /-- Between single quotation marks. -/
  | single
  /-- In an arithmetic expression. -/
  | arithmetic
deriving DecidableEq, Repr

/-- **What a character does.** -/
inductive Role where
  /-- It stands for itself. -/
  | ordinary
  /-- It ends a line. -/
  | newline
  /-- It quotes the next character. -/
  | backslash
  /-- It begins a quotation. -/
  | openMark (setting : Setting)
  /-- It ends the quotation. -/
  | closeMark
  /-- It begins what stands for another text. -/
  | dollar
  /-- It begins a command that prints a text. -/
  | backquote
  /-- It ends an operand. -/
  | closeBrace
  /-- It opens a parenthesis. -/
  | openParen
  /-- It closes a parenthesis. -/
  | closeParen
  /-- It ends a word. -/
  | ending
deriving DecidableEq, Repr

/-- What a character does in some surroundings. -/
def Setting.role : Setting → Char → Role
  | .single, '\n' => .newline
  | .single, '\'' => .closeMark
  | .single, _ => .ordinary
  | _, '\n' => .newline
  | _, '\\' => .backslash
  | _, '`' => .backquote
  | _, '$' => .dollar
  | _, '\x7d' => .closeBrace
  | .double, '"' => .closeMark
  | .double, _ => .ordinary
  | .arithmetic, '(' => .openParen
  | .arithmetic, ')' => .closeParen
  | .arithmetic, _ => .ordinary
  | .bare, '\'' => .openMark .single
  | .bare, '"' => .openMark .double
  | .bare, c => if "<>();&| \t".toList.contains c then .ending else .ordinary

/-- **A layer of surroundings.** -/
structure Layer where
  /-- The surroundings. -/
  setting : Setting
  /-- Whether double quotation marks have been opened in an operand. -/
  marksInside : Bool := false
  /-- Whether the layer belongs to an operand, with whose end it ends. -/
  ofOperand : Bool := false
  /-- Whether backslashes quote only what is special between double marks. -/
  doubled : Bool := false
  /-- The number of operands opened. -/
  braces : Nat := 0
  /-- The number of those that were opened between double quotation marks. -/
  doubledBraces : Nat := 0
  /-- The number of parentheses opened. -/
  parens : Nat := 0

/-- **What a level will be once it is closed.** -/
inductive Enclosure where
  /-- The value of a parameter. -/
  | value (quoted : Bool) (name : Bytes) (treatment : Treatment) (emptyToo : Bool)
  /-- The value of an expression. -/
  | number (quoted : Bool)

/-- **A level**: what stands in front of an operand or expression. -/
structure Level where
  /-- What the operand or expression belongs to. -/
  enclosure : Enclosure
  /-- The pieces in front of it, last first. -/
  pieces : List (Piece Command)
  /-- Whether the level around it is quoted as a whole. -/
  outer : Bool
  /-- Whether it stands between quotation marks of the level around it. -/
  marked : Bool

/-- **A word in the making.** -/
structure Draft where
  /-- The innermost layer. -/
  layer : Layer
  /-- The layers around it. -/
  layers : List Layer := []
  /-- The pieces of the innermost level, last first. -/
  pieces : List (Piece Command) := []
  /-- Whether the innermost level is quoted as a whole. -/
  outer : Bool := false
  /-- Whether quotation marks are open in the innermost level. -/
  marked : Bool := false
  /-- The levels around it. -/
  levels : List Level := []
  /-- Whether something was quoted. -/
  quoted : Bool := false
  /-- The here-document that is read, if it is one. -/
  document : Option Awaited := none
  /-- Whether the draft is the line that will end a here-document. -/
  ofEnding : Bool := false
  /-- Whether a line of the here-document begins. -/
  fresh : Bool := true

namespace Draft

/-- Whether what comes next is quoted. -/
def quotes (d : Draft) : Bool := d.outer || d.marked

/-- The draft with another piece. -/
def push (d : Draft) (piece : Piece Command) : Draft := { d with pieces := piece :: d.pieces }

/-- The draft with another character, which may be quoted for itself. -/
def put (d : Draft) (c : Char) (escaped : Bool) : Draft := d.push (.text (d.quotes || escaped) c)

/-- The draft with another innermost layer. -/
def pushLayer (d : Draft) (layer : Layer) : Draft :=
  { d with layer, layers := d.layer :: d.layers }

/-- The draft without its innermost layer. -/
def popLayer (d : Draft) : Draft :=
  match d.layers with
  | [] => d
  | layer :: layers => { d with layer, layers }

/-- The draft with the innermost layer changed. -/
def change (d : Draft) (f : Layer → Layer) : Draft := { d with layer := f d.layer }

/-- **Opens a level.** The operand that is a pattern is not quoted by what is around it. -/
def openLevel (d : Draft) (enclosure : Enclosure) : Draft :=
  let outer := match enclosure with
    | .value _ _ (.cutEnd _) _ | .value _ _ (.cutStart _) _ => false
    | .value _ _ _ _ => d.quotes
    | .number _ => true
  { d with
    levels := ⟨enclosure, d.pieces, d.outer, d.marked⟩ :: d.levels
    pieces := []
    outer := outer
    marked := false }

/-- **Closes a level.** -/
def closeLevel (d : Draft) : Draft :=
  match d.levels with
  | [] => d
  | level :: levels =>
    let inside := d.pieces.reverse
    let piece := match level.enclosure with
      | .value quoted name treatment emptyToo => .value quoted name treatment emptyToo inside
      | .number quoted => .number quoted inside
    { d with
      levels := levels
      pieces := piece :: level.pieces
      outer := level.outer
      marked := level.marked }

/-- **Notes a quotation mark.** In a here-document marks are dropped. Marks that hold
nothing but all parameters leave no trace, for then there may be no field at all. -/
def mark (d : Draft) : Draft :=
  match d.document with
  | some _ => d
  | none =>
    let d := { d with marked := !d.marked }
    match d.marked, d.pieces with
    | false, .value true ['@'] .plain emptyToo operand :: .mark :: before =>
      { d with pieces := .value true ['@'] .plain emptyToo operand :: before }
    | _, _ => d.push .mark

/-- Notes a double quotation mark, which counts in the operand that it stands in. -/
def doubleMark (d : Draft) : Draft :=
  let d := if d.layer.braces = 0 then d
    else d.change fun l => { l with marksInside := !l.marksInside }
  d.mark

/-- **The end of a quotation.** -/
def closeMark (d : Draft) (c : Char) : Draft :=
  if d.document.isSome && d.layer.braces = 0 then d.put c false
  else
    let d := if d.layer.doubledBraces ≠ 0 then d
      else d.change fun l => { l with setting := .bare, doubled := false }
    let d := { d with quoted := true }
    if c = '"' then d.doubleMark else d.mark

/-- **A closing brace.** -/
def closeBrace (d : Draft) : Draft :=
  if d.layer.marksInside || d.layer.braces = 0 then d.put '\x7d' false
  else
    let d := d.change fun l => { l with braces := l.braces - 1 }
    let d :=
      if d.layer.braces = 0 && d.layer.ofOperand then d.popLayer
      else d.change fun l => { l with doubledBraces := l.doubledBraces - 1 }
    d.closeLevel

/-- **A character behind a backslash.** Between double quotation marks the backslash
stays in front of a character that is not special there. -/
def escape (d : Draft) (c : Char) : Draft :=
  let special := c = '\\' || c = '`' || c = '$'
    || c = '"' && !(d.document.isSome && d.layer.braces = 0)
    || c = '\x7d' && d.layer.braces ≠ 0
  let d := if d.layer.doubled && !special then d.put '\\' true else d
  { d.put c true with quoted := true }

/-- What is wrong with a draft that ends here. -/
def fault? (d : Draft) : Option String :=
  if d.layer.setting = .arithmetic then some "Missing '))'"
  else if d.layer.setting ≠ .bare && d.document.isNone then some "Unterminated quoted string"
  else if d.layer.braces ≠ 0 then some "Missing '\x7d'"
  else none

/-- The descriptor that a draft names, if it is what can stand in front of a redirection. -/
def descriptor? (d : Draft) (standard : Nat) : Option Nat :=
  if d.quoted then none
  else
    match d.pieces with
    | [] => some standard
    | [.text false c] => if c.isDigit then some (c.toNat - 48) else none
    | _ => none

end Draft

end SnapBlocks.Host.Shell
