import SnapBlocks.Host.Bytes

/-!
# Reading numbers

Numbers are read from the front of a text: blanks, a sign, and digits in base ten,
or in base two, eight or sixteen where a zero in front says so. What is read is kept
within the 64 bits that numbers have; a number beyond them is the nearest one
within, and it is noted that it was beyond.
-/

namespace SnapBlocks.Host.Numeral

/-- The number of different numbers of 64 bits. -/
def modulus : Nat := 18446744073709551616

/-- The least number beyond those with a sign. -/
def half : Nat := 9223372036854775808

/-- **The number of 64 bits, with a sign, that agrees with an integer modulo the number
of all of them.** -/
def wrap (n : Int) : Int := Int.bmod n modulus

/-- The number of 64 bits without a sign that agrees with an integer. -/
def unsigned (n : Int) : Nat := (n % (modulus : Int)).toNat

/-- Whether a character is a blank in front of a number. -/
def isBlank (c : Char) : Bool := c = ' ' || '\t' ≤ c && c ≤ '\r'

/-- The value of a digit, in any base. -/
def digit? (c : Char) : Option Nat :=
  if c.isDigit then some (c.toNat - 48)
  else if 'a' ≤ c && c ≤ 'z' then some (c.toNat - 87)
  else if 'A' ≤ c && c ≤ 'Z' then some (c.toNat - 55)
  else none

/-- Whether a character is a digit in a base. -/
def isDigit (base : Nat) (c : Char) : Bool := (digit? c).any (· < base)

/-- The number that digits in a base give. -/
def value (base : Nat) (digits : List Char) : Nat :=
  digits.foldl (fun n c => n * base + (digit? c).getD 0) 0

/-- Digits in a base at the front of a text: the number and what follows it. -/
def digits? (base : Nat) (text : Bytes) : Option (Nat × Bytes) :=
  let digits := text.takeWhile (isDigit base)
  if digits.isEmpty then none else some (value base digits, text.drop digits.length)

/-- Digits without a sign at the front of a text: the number and what follows it. Base
zero stands for the base that the digits say. A letter behind a zero says nothing if no digits
of its base follow. -/
def magnitude? (base : Nat) (text : Bytes) : Option (Nat × Bytes) :=
  let lettered (own : Nat) (rest : Bytes) : Option (Nat × Bytes) :=
    ((if base = 0 || base = own then digits? own rest else none) <|> digits? base text)
      <|> some (0, text.drop 1)
  match text with
  | '0' :: 'x' :: rest | '0' :: 'X' :: rest => lettered 16 rest
  | '0' :: 'b' :: rest | '0' :: 'B' :: rest => lettered 2 rest
  | '0' :: _ => digits? (if base = 0 then 8 else base) text
  | _ => digits? (if base = 0 then 10 else base) text

/-- **A number at the front of a text**: the number, without regard to its size, and what
follows it. -/
def integer? (base : Nat) (text : Bytes) : Option (Int × Bytes) :=
  match text.dropWhile isBlank with
  | '-' :: rest => (magnitude? base rest).map fun (n, rest) => (-(n : Int), rest)
  | '+' :: rest => (magnitude? base rest).map fun (n, rest) => ((n : Int), rest)
  | rest => (magnitude? base rest).map fun (n, rest) => ((n : Int), rest)

/-- The nearest number of 64 bits, with a sign. -/
def clamp (n : Int) : Int := max (-(half : Int)) (min ((half : Int) - 1) n)

/-- **The number that a text is**, blanks around it apart: nothing if it is no number of
64 bits. -/
def whole? (base : Nat) (text : Bytes) : Option Int :=
  match integer? base text with
  | some (n, rest) => if rest.all isBlank && clamp n = n then some n else none
  | none => none

end SnapBlocks.Host.Numeral
