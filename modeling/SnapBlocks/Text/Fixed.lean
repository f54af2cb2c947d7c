/-!
# Numbers with a fixed count of decimals

A binary32 value that is not infinite and not a NaN is a fraction
`± numerator / denominator`, read off its bits without rounding. `fixed places x`
writes that exact fraction with `places` decimals: the nearest such decimal, and
of two equally near ones the one whose last digit is even. Every digit before
the point is written, however large the value, and the sign is the sign bit, so
that a value may round to `-0.0`.
-/

namespace SnapBlocks.Text

/-- **The nearest integer to a fraction**, ties to the even one. -/
def roundQuotient (numerator denominator : Nat) : Nat :=
  let quotient := numerator / denominator
  let excess := 2 * (numerator % denominator)
  if excess < denominator then quotient
  else if denominator < excess then quotient + 1
  else quotient + quotient % 2

/-- **What the bits of a binary32 value say.** -/
inductive Numeral where
  /-- The fraction `numerator / denominator`, with a sign. -/
  | finite (negative : Bool) (numerator denominator : Nat)
  /-- An infinity, with a sign. -/
  | infinite (negative : Bool)
  /-- Not a number. -/
  | nan
deriving DecidableEq, Repr

namespace Numeral

/-- The numeral of a binary32 value: one sign bit, eight bits of exponent and
twenty-three bits of fraction, with a hidden bit unless the exponent is zero. -/
def ofFloat (x : Float32) : Numeral :=
  let bits := x.toBits.toNat
  let negative := bits.testBit 31
  let exponent := (bits >>> 23) % 0x100
  let fraction := bits % 0x800000
  if exponent = 255 then
    if fraction = 0 then infinite negative else nan
  else if exponent = 0 then finite negative fraction (1 <<< 149)
  else finite negative ((0x800000 + fraction) <<< (exponent - 1)) (1 <<< 149)

end Numeral

/-- The decimal digits of a number, with zeros put in front up to a width. -/
def padded (width n : Nat) : String :=
  let digits := toString n
  String.ofList (List.replicate (width - digits.length) '0') ++ digits

/-- A sign in front of a text. -/
def signed (negative : Bool) (text : String) : String :=
  if negative then "-" ++ text else text

/-- **A binary32 value with a fixed count of decimals.** -/
def fixed (places : Nat) (x : Float32) : String :=
  match Numeral.ofFloat x with
  | .nan => "NaN"
  | .infinite negative => signed negative "inf"
  | .finite negative numerator denominator =>
    let unit := Nat.pow 10 places
    let scaled := roundQuotient (numerator * unit) denominator
    let whole := toString (scaled / unit)
    if places = 0 then signed negative whole
    else signed negative (whole ++ "." ++ padded places (scaled % unit))

/-! ## Rounding -/

end SnapBlocks.Text
