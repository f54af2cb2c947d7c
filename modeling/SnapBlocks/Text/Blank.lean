/-!
# Blank characters

The characters with the Unicode property `White_Space`, and trimming a text of
them at both ends.
-/

namespace SnapBlocks.Text

/-- The code points with the property `White_Space`, as ranges. -/
def blankRanges : List (Nat × Nat) :=
  [(0x9, 0xD), (0x20, 0x20), (0x85, 0x85), (0xA0, 0xA0), (0x1680, 0x1680), (0x2000, 0x200A),
    (0x2028, 0x2029), (0x202F, 0x202F), (0x205F, 0x205F), (0x3000, 0x3000)]

/-- Whether a character has the property `White_Space`. -/
def isBlank (c : Char) : Bool :=
  blankRanges.any fun (first, last) => first ≤ c.toNat && c.toNat ≤ last

/-- A list of characters without the blank ones at its front. -/
def trimFront (cs : List Char) : List Char := cs.dropWhile isBlank

/-- **A text without the blank characters at both of its ends.** -/
def trim (text : String) : String :=
  String.ofList (trimFront (trimFront text.toList).reverse).reverse

end SnapBlocks.Text
