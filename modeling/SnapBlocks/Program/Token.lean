import SnapBlocks.Block.Slot

/-!
# Program text, piece by piece

A program is written in two steps. First the blocks are turned into **tokens**:
pieces of text, the beginnings of lines, the places where the indentation changes,
and a mark for every block that is entered. The tokens say everything about the
structure of the program and nothing about blanks.

Then the tokens are printed onto a **page**, the text so far together with the
level of indentation. Where a line begins, the page writes one step of
indentation for each level.
-/

namespace SnapBlocks

/-- **A piece of a program.** -/
inductive Token where
  /-- What follows stands for this block. Nothing is printed. -/
  | enter (block : BlockId)
  /-- A line begins. -/
  | line
  /-- A piece of text. -/
  | text (piece : String)
  /-- The lines that follow are one level deeper. -/
  | indent
  /-- The lines that follow are one level less deep. -/
  | dedent
deriving DecidableEq, Repr

/-- One step of indentation. -/
def indentStep : String := "    "

/-- The indentation of a line. -/
def indentation : Nat → String
  | 0 => ""
  | level + 1 => indentStep ++ indentation level

/-- The block that a token enters, if it enters one. -/
def Token.entered? : Token → Option BlockId
  | enter block => some block
  | _ => none

/-- **What has been printed so far.** -/
structure Page where
  /-- The text. -/
  text : String
  /-- The level at which the next line begins. -/
  level : Nat
deriving DecidableEq, Repr

namespace Page

/-- The page on which nothing has been printed. -/
def empty : Page := ⟨"", 0⟩

instance : Inhabited Page := ⟨empty⟩

/-- The page after one more token. -/
def add (page : Page) : Token → Page
  | .enter _ => page
  | .line => { page with text := page.text ++ indentation page.level }
  | .text piece => { page with text := page.text ++ piece }
  | .indent => { page with level := page.level + 1 }
  | .dedent => { page with level := page.level - 1 }

/-- **The page after a list of tokens.** -/
def print (page : Page) (tokens : List Token) : Page := tokens.foldl add page

@[simp] theorem print_nil (page : Page) : page.print [] = page := rfl

@[simp] theorem print_cons (page : Page) (token : Token) (tokens : List Token) :
    page.print (token :: tokens) = (page.add token).print tokens := rfl

/-- Printing one list after another is printing their concatenation. -/
@[simp] theorem print_append (page : Page) (tokens more : List Token) :
    page.print (tokens ++ more) = (page.print tokens).print more :=
  List.foldl_append

end Page

end SnapBlocks
