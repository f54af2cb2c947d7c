import SnapBlocks.Host.Bytes

/-!
# Words

A word of a script is not yet a text. Some of its characters were quoted, which
keeps them from meaning anything, and some of its pieces stand for a text that is
known only when the word is used: the value of a parameter, what a command prints,
or the value of an expression. What kind of command is printed from is no matter of
words, so it is a parameter, `κ`.
-/

namespace SnapBlocks.Host.Shell

/-- **What becomes of the value of a parameter** in a word. -/
inductive Treatment where
  /-- The value itself is used. -/
  | plain
  /-- The operand is used in place of no value. -/
  | orElse
  /-- The operand is used in place of a value, and nothing in place of none. -/
  | instead
  /-- It is an error that there is no value. -/
  | orFail
  /-- The operand becomes the value if there is none. -/
  | orAssign
  /-- The shortest or longest end that matches the operand is cut off. -/
  | cutEnd (longest : Bool)
  /-- The shortest or longest beginning that matches the operand is cut off. -/
  | cutStart (longest : Bool)
  /-- The length of the value is used. -/
  | length
  /-- It cannot be understood, which is an error only when the word is used. -/
  | malformed
deriving DecidableEq, Repr

/-- **A piece of a word.** Pieces know whether they are quoted: then they are not
split into fields and match nothing but themselves. -/
inductive Piece (κ : Type) where
  /-- A character. -/
  | text (quoted : Bool) (c : Char)
  /-- A quotation mark; a word that has one is not left out even if it is empty. -/
  | mark
  /-- The value of a parameter. `emptyToo` says that an empty value counts as none. Where that
  is said of a value that is used itself, the operand is behind it and the last of the word. -/
  | value (quoted : Bool) (name : Bytes) (treatment : Treatment) (emptyToo : Bool)
      (operand : List (Piece κ))
  /-- What a command prints. -/
  | output (quoted : Bool) (command : κ)
  /-- The value of an arithmetic expression. -/
  | number (quoted : Bool) (expression : List (Piece κ))

/-- **A word.** -/
abbrev Word (κ : Type) := List (Piece κ)

/-- Whether a character can begin a name. -/
def beginsName (c : Char) : Bool := c.isAlpha || c = '_'

/-- Whether a character can stand in a name. -/
def inName (c : Char) : Bool := c.isAlphanum || c = '_'

/-- Whether a text is a name. -/
def isName (text : Bytes) : Bool :=
  match text with
  | [] => false
  | c :: rest => beginsName c && rest.all inName

namespace Word

variable {κ : Type}

/-- The text of a word in which nothing is quoted or stands for another text. -/
def bare? (w : Word κ) : Option Bytes :=
  w.mapM fun piece => match piece with
    | .text false c => some c
    | _ => none

/-- The text of a word without its quotation, as far as it is text. -/
def letters (w : Word κ) : Bytes :=
  w.filterMap fun piece => match piece with
    | .text _ c => some c
    | _ => none

/-- **The name that a word assigns to, and the word it assigns**: a name and an equals
sign, none of them quoted, begin an assignment. -/
def assignment? (w : Word κ) : Option (Bytes × Word κ) :=
  let name := letters (w.takeWhile fun piece => match piece with
    | .text false c => inName c
    | _ => false)
  match w.drop name.length with
  | .text false '=' :: rest => if isName name then some (name, rest) else none
  | _ => none

end Word

end SnapBlocks.Host.Shell
