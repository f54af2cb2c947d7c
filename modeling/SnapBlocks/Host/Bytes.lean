import SnapBlocks.Text.Utf8

/-!
# Texts of bytes

What programs print and read are bytes, and most of the bytes that matter to them
are letters. A **text of bytes** is therefore a list of characters, of which each
stands for the byte with its code. All of the shell works on such texts, so that a
character beyond the first 256 is never met there: it is the several bytes of its
encoding.
-/

namespace SnapBlocks.Host

/-- **A text of bytes**: each character stands for the byte with its code. -/
abbrev Bytes := List Char

namespace Bytes

/-- The text that stands for some bytes. -/
def ofBytes (bytes : List UInt8) : Bytes := bytes.map fun byte => Char.ofNat byte.toNat

/-- The bytes that a text stands for. -/
def toBytes (text : Bytes) : List UInt8 := text.map fun c => UInt8.ofNat c.toNat

/-- The bytes of a string in its encoding. -/
def ofString (s : String) : Bytes := ofBytes (Text.Utf8.encode s)

/-- The decimal digits of a number. -/
def ofNat (n : Nat) : Bytes := Nat.toDigits 10 n

/-- The decimal digits of an integer, behind a sign if it is negative. -/
def ofInt : Int → Bytes
  | .ofNat n => ofNat n
  | .negSucc n => '-' :: ofNat (n + 1)

/-- Some texts with another one between every two of them. -/
def join (between : Bytes) (texts : List Bytes) : Bytes := between.intercalate texts

end Bytes

end SnapBlocks.Host
