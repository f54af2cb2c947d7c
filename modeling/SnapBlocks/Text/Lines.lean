/-!
# Lines

A text is cut into lines behind every line feed. The line feed is dropped, and a
carriage return right before it as well; what stands behind the last line feed is
a line if it is not empty, and keeps a carriage return.
-/

namespace SnapBlocks.Text

/-- A line read backward, without a carriage return at its end. -/
def dropReturn : List Char → List Char
  | '\r' :: rest => rest
  | reversed => reversed

/-- The lines of a text of which the current line is read up to some point; the
part read so far is given backward. -/
def linesFrom (reversed : List Char) : List Char → List String
  | [] => if reversed.isEmpty then [] else [String.ofList reversed.reverse]
  | '\n' :: rest => String.ofList (dropReturn reversed).reverse :: linesFrom [] rest
  | c :: rest => linesFrom (c :: reversed) rest

/-- **The lines of a text.** -/
def lines (text : String) : List String := linesFrom [] text.toList

end SnapBlocks.Text
