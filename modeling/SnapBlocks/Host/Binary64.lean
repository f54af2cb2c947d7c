import SnapBlocks.Host.Numeral

/-!
# Fractions of 64 bits, read and written

A fraction of 64 bits is a whole number of at most 53 bits times a power of two. A
decimal numeral is read as the nearest one, and of two that are equally near the one
whose last bit is zero. It is written with as many digits as asked for, again to the
nearest, and so that of two equally near numerals the one with an even last digit is
taken. All of it is done in whole numbers, without loss.
-/

namespace SnapBlocks.Host.Binary64

/-- **A fraction of 64 bits**, with its sign. -/
inductive Value where
  /-- No number. -/
  | nan
  /-- A number beyond all others. -/
  | infinite
  /-- A whole number times a power of two. -/
  | finite (mantissa : Nat) (exponent : Int)
deriving DecidableEq, Repr

/-- **The quotient of two numbers, to the nearest**; a tie goes to the even number. -/
def nearest (numerator denominator : Nat) : Nat :=
  let quotient := numerator / denominator
  let twice := 2 * (numerator % denominator)
  if twice < denominator || twice = denominator && quotient % 2 = 0 then quotient else quotient + 1

/-- A power of two as a quotient. -/
def power (exponent : Int) : Nat × Nat :=
  match exponent with
  | .ofNat n => (1 <<< n, 1)
  | .negSucc n => (1, 1 <<< (n + 1))

/-- The least exponent of a fraction. -/
def leastExponent : Int := -1074

/-- **The fraction nearest to a quotient**, and whether the quotient is beyond the
fractions of full precision. -/
def round (numerator denominator : Nat) : Value × Bool :=
  if numerator = 0 || denominator = 0 then (.finite 0 0, false)
  else
    let scaled (exponent : Int) : Nat × Nat :=
      let (up, down) := power exponent
      (numerator * down, denominator * up)
    let guess : Int := (Nat.log2 numerator : Int) - (Nat.log2 denominator : Int) - 52
    let (a, b) := scaled guess
    let exponent := max leastExponent (if a / b < 1 <<< 52 then guess - 1 else guess)
    let (a, b) := scaled exponent
    let mantissa := nearest a b
    let (mantissa, exponent) :=
      if mantissa = 1 <<< 53 then (1 <<< 52, exponent + 1) else (mantissa, exponent)
    if exponent > 971 then (.infinite, true)
    else (.finite mantissa exponent, mantissa < 1 <<< 52 && a % b ≠ 0)

/-! ## Reading -/

/-- The texts of what is no finite number, in lower case. -/
def words : List (String × Value) := [("infinity", .infinite), ("inf", .infinite), ("nan", .nan)]

/-- The digits behind a point at the front of a text, and what follows them. -/
def fraction (base : Nat) (text : Bytes) : Bytes × Bytes :=
  match text with
  | '.' :: rest =>
    let digits := rest.takeWhile (Numeral.isDigit base)
    (digits, rest.drop digits.length)
  | _ => ([], text)

/-- An exponent behind one of two letters at the front of a text, and what follows it. -/
def exponent (small large : Char) (text : Bytes) : Int × Bytes :=
  match text with
  | c :: rest =>
    if c = small || c = large then
      let (negative, digits) := match rest with
        | '-' :: digits => (true, digits)
        | '+' :: digits => (false, digits)
        | digits => (false, digits)
      match Numeral.magnitude? 10 digits with
      | some (n, rest) =>
        let n := min n 99999
        (if negative then -(n : Int) else n, rest)
      | none => (0, text)
    else (0, text)
  | [] => (0, [])

/-- What follows the word for no number at the front of a text: it may have a name in
parentheses. -/
def behindNan (text : Bytes) : Bytes :=
  match text with
  | '(' :: rest =>
    match rest.dropWhile fun c => c.isAlphanum || c = '_' with
    | ')' :: rest => rest
    | _ => text
  | _ => text

/-- Whether digits in base sixteen stand at the front of a text, perhaps behind a point. -/
def beginsHexadecimal : Bytes → Bool
  | '.' :: rest => rest.head?.any (Numeral.isDigit 16)
  | rest => rest.head?.any (Numeral.isDigit 16)

/-- **A number without a sign** at the front of a text: its value, whether it is beyond the
range, and what follows it. -/
def magnitude? (text : Bytes) : Option (Value × Bool × Bytes) :=
  let lower := text.map Char.toLower
  match words.find? fun (word, _) => word.toList.isPrefixOf lower with
  | some (word, value) =>
    let rest := text.drop word.length
    some (value, false, if value = .nan then behindNan rest else rest)
  | none =>
    let (base, body) := match text with
      | '0' :: 'x' :: rest | '0' :: 'X' :: rest =>
        if beginsHexadecimal rest then (16, rest) else (10, text)
      | _ => (10, text)
    let whole := body.takeWhile (Numeral.isDigit base)
    let (part, rest) := fraction base (body.drop whole.length)
    if whole.isEmpty && part.isEmpty then none
    else
      let digits := Numeral.value base (whole ++ part)
      if base = 16 then
        let (e, rest) := exponent 'p' 'P' rest
        let (up, down) := power (max (-9999) (min 9999 (e - 4 * part.length)))
        let (value, beyond) := round (digits * up) down
        some (value, beyond, rest)
      else
        let (e, rest) := exponent 'e' 'E' rest
        let scale : Int := e - part.length
        let size : Int := scale + (whole ++ part).length
        let (value, beyond) :=
          if digits = 0 then (.finite 0 0, false)
          else if size < -400 then (.finite 0 0, true)
          else if scale > 400 then (.infinite, true)
          else match scale with
            | .ofNat n => round (digits * Nat.pow 10 n) 1
            | .negSucc n => round digits (Nat.pow 10 (n + 1))
        some (value, beyond, rest)

/-- **A number at the front of a text**: whether it is negative, its value, whether it is
beyond the range, and what follows it. -/
def read? (text : Bytes) : Option (Bool × Value × Bool × Bytes) :=
  let (negative, body) := match text.dropWhile Numeral.isBlank with
    | '-' :: rest => (true, rest)
    | '+' :: rest => (false, rest)
    | rest => (false, rest)
  (magnitude? body).map fun found => (negative, found)

/-! ## Writing -/

/-- Digits with zeros in front of them. -/
def padded (size n : Nat) : Bytes :=
  let digits := Bytes.ofNat n
  List.replicate (size - digits.length) '0' ++ digits

/-- Whole digits and digits behind a point, which stands there also if nothing follows it
and `point` is set. -/
def pointed (point : Bool) (whole part : Bytes) : Bytes :=
  if part.isEmpty && !point then whole else whole ++ '.' :: part

/-- **A quotient with a number of digits behind the point.** -/
def fixed (places : Nat) (point : Bool) (a b : Nat) : Bytes :=
  let scale := Nat.pow 10 places
  let n := nearest (a * scale) b
  pointed point (Bytes.ofNat (n / scale)) (if places = 0 then [] else padded places (n % scale))

/-- The power of ten that a quotient below one has to be multiplied with to be no less than
one; at most `fuel`. -/
def shift : Nat → Nat → Nat → Nat
  | 0, _, _ => 0
  | fuel + 1, a, b => if b ≤ a then 0 else shift fuel (a * 10) b + 1

/-- **The decimal exponent and the digits of a quotient**, of which `places` stand behind the
first one. -/
def digits (places : Nat) (a b : Nat) : Int × Nat :=
  if a = 0 then (0, 0)
  else
    let e : Int :=
      if b ≤ a then ((Bytes.ofNat (a / b)).length : Int) - 1 else -(shift 400 a b : Int)
    let n := match (places : Int) - e with
      | .ofNat k => nearest (a * Nat.pow 10 k) b
      | .negSucc k => nearest a (b * Nat.pow 10 (k + 1))
    if n = Nat.pow 10 (places + 1) then (e + 1, Nat.pow 10 places) else (e, n)

/-- Digits with an exponent behind them. -/
def withExponent (point : Bool) (all : Bytes) (e : Int) : Bytes :=
  let sign := if e < 0 then '-' else '+'
  pointed point (all.take 1) (all.drop 1) ++ 'e' :: sign :: padded 2 e.natAbs

/-- Digits without the zeros at their end. -/
def trimmed (part : Bytes) : Bytes := (part.reverse.dropWhile (· = '0')).reverse

/-- **A quotient in the shorter of both forms**, with a number of digits in all. Zeros at the
end are kept if `point` is set. -/
def general (size : Nat) (point : Bool) (a b : Nat) : Bytes :=
  let size := max size 1
  let (e, n) := digits (size - 1) a b
  let all := padded size n
  let keep (part : Bytes) : Bytes := if point then part else trimmed part
  if e < -4 || (size : Int) ≤ e then withExponent point (all.take 1 ++ keep (all.drop 1)) e
  else
    match e with
    | .ofNat k => pointed point (all.take (k + 1)) (keep (all.drop (k + 1)))
    | .negSucc k => pointed point ['0'] (keep (List.replicate k '0' ++ all))

/-- The number of bits behind the first one. -/
def partBits : Nat := 52

/-- **A fraction in base sixteen**, times a power of two: one digit, and behind the point as
many as are given or else as many as it takes. -/
def hexadecimal (places? : Option Nat) (point : Bool) (mantissa : Nat) (exponent : Int) : Bytes :=
  let bits := Nat.log2 mantissa
  let isSmall := exponent + bits < leastExponent + partBits
  let n := if isSmall then mantissa * (power (exponent - leastExponent)).1
    else mantissa <<< (partBits - bits)
  let e : Int := if mantissa = 0 then 0
    else if isSmall then leastExponent + partBits
    else exponent + bits
  let size := partBits / 4
  let places := places?.getD size
  let n :=
    if places < size then nearest n (1 <<< (4 * (size - places)))
    else n <<< (4 * (places - size))
  let part := n % (1 <<< (4 * places))
  let digits := Nat.toDigits 16 part
  let all := List.replicate (places - digits.length) '0' ++ digits
  let shown := match places? with
    | some 0 => []
    | some _ => all
    | none => trimmed all
  pointed point (Nat.toDigits 16 (n / (1 <<< (4 * places)))) shown
    ++ 'p' :: (if e < 0 then '-' else '+') :: Bytes.ofNat e.natAbs

/-- The ways to write a fraction. -/
inductive Form where
  /-- With digits behind the point. -/
  | fixed
  /-- With an exponent. -/
  | scientific
  /-- In the shorter of both. -/
  | general
deriving DecidableEq, Repr

/-- **The digits of a fraction**, without its sign. -/
def write (form : Form) (places : Nat) (point : Bool) : Value → Bytes
  | .nan => "nan".toList
  | .infinite => "inf".toList
  | .finite mantissa exponent =>
    let (up, down) := power exponent
    let a := mantissa * up
    match form with
    | .fixed => fixed places point a down
    | .scientific =>
      let (e, n) := digits places a down
      withExponent point (padded (places + 1) n) e
    | .general => general places point a down

end SnapBlocks.Host.Binary64
