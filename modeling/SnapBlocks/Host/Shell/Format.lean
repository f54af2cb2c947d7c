import SnapBlocks.Host.Shell.Escape
import SnapBlocks.Host.Binary64

/-!
# Formats

The command `printf` goes through a format and prints it, with arguments in place of
the directives in it. It starts over as long as there are arguments left, if the
format uses any. An argument that is missing counts as empty or as zero.

A number may be followed by something that is no number, or be too large. Then the
number is printed as far as it could be read, and a complaint is made.
-/

namespace SnapBlocks.Host.Shell.Format

/-- **A directive**, the letter apart. -/
structure Directive where
  /-- The flags. -/
  flags : List Char
  /-- The least number of characters. -/
  width : Nat
  /-- The precision, if there is one. -/
  precision : Option Nat
  /-- How it is written. -/
  text : Bytes

/-- **What has been done of a format.** -/
structure State where
  /-- What has been printed, last first. -/
  printed : Bytes
  /-- The arguments that are left. -/
  arguments : List Bytes
  /-- The complaints made, last first. -/
  complaints : List Bytes
  /-- Whether nothing further is printed. -/
  finished : Bool

/-- Going through a format; it can break off with a complaint. -/
abbrev Print := EStateM Bytes State

/-- Prints a text. -/
def put (text : Bytes) : Print Unit :=
  modify fun s => { s with printed := text.reverse ++ s.printed }

/-- The next argument, if there is one. -/
def argument? : Print (Option Bytes) := do
  let s ← get
  set { s with arguments := s.arguments.tail }
  return s.arguments.head?

/-- Complains about an argument and goes on. -/
def complain (argument : Bytes) (text : String) : Print Unit :=
  modify fun s => { s with complaints := (argument ++ ": ".toList ++ text.toList) :: s.complaints }

/-- Complains about what follows a number or about its size. -/
def check (argument rest : Bytes) (beyond : Bool) : Print Unit := do
  if !rest.isEmpty then
    complain argument (if rest.length = argument.length then "expected numeric value"
      else "not completely converted")
  else if beyond then complain argument "Numerical result out of range"

/-- The code of the character behind a quotation mark, which can stand for a number. -/
def code? : Bytes → Option Nat
  | '\'' :: rest | '"' :: rest => some ((rest.head?.map Char.toNat).getD 0)
  | _ => none

/-- **The number that the next argument is**, within bounds. -/
def number (bound : Int → Int) : Print Int := do
  match ← argument? with
  | none => return 0
  | some argument =>
    match code? argument with
    | some code => return code
    | none =>
      match Numeral.integer? 0 argument with
      | none => check argument argument false; return 0
      | some (n, rest) => check argument rest (bound n ≠ n); return bound n

/-- The nearest number without a sign; a negative one wraps around. -/
def clampUnsigned (n : Int) : Int :=
  if n < 0 && -(Numeral.modulus : Int) < n then n + Numeral.modulus
  else if 0 ≤ n && n < Numeral.modulus then n
  else (Numeral.modulus : Int) - 1

/-- **The number without a sign that the next argument is.** -/
def unsigned : Print Nat := do
  match ← argument? with
  | none => return 0
  | some argument =>
    match code? argument with
    | some code => return code
    | none =>
      match Numeral.integer? 0 argument with
      | none => check argument argument false; return 0
      | some (n, rest) =>
        check argument rest (Numeral.modulus ≤ n.natAbs)
        return (clampUnsigned n).toNat

/-- **The fraction that the next argument is**, and whether it is negative. -/
def fraction : Print (Bool × Binary64.Value) := do
  match ← argument? with
  | none => return (false, .finite 0 0)
  | some argument =>
    match code? argument with
    | some code => return (false, .finite code 0)
    | none =>
      match Binary64.read? argument with
      | none => check argument argument false; return (false, .finite 0 0)
      | some (negative, value, beyond, rest) =>
        check argument rest beyond
        return (negative, value)

namespace Directive

/-- Whether a directive has a flag. -/
def has (d : Directive) (flag : Char) : Bool := d.flags.contains flag

/-- A text with blanks around it, up to the width. -/
def pad (d : Directive) (text : Bytes) : Bytes :=
  let blanks := List.replicate (d.width - text.length) ' '
  if d.has '-' then text ++ blanks else blanks ++ text

/-- A text cut down to the precision, with blanks around it. -/
def string (d : Directive) (text : Bytes) : Bytes :=
  d.pad (match d.precision with
    | some n => text.take n
    | none => text)

/-- A sign, a mark of the base and digits, with zeros or blanks up to the width. -/
def digits (d : Directive) (zeros : Bool) (front digits : Bytes) : Bytes :=
  if zeros && d.has '0' && !d.has '-' then
    front ++ List.replicate (d.width - front.length - digits.length) '0' ++ digits
  else d.pad (front ++ digits)

/-- The sign of a number. -/
def sign (d : Directive) (negative : Bool) : Bytes :=
  if negative then ['-'] else if d.has '+' then ['+'] else if d.has ' ' then [' '] else []

/-- The digits of a whole number, with zeros up to the precision. -/
def whole (d : Directive) (base n : Nat) : Bytes :=
  match d.precision with
  | none => Nat.toDigits base n
  | some 0 => if n = 0 then [] else Nat.toDigits base n
  | some size =>
    let digits := Nat.toDigits base n
    List.replicate (size - digits.length) '0' ++ digits

/-- A number with a sign. -/
def signed (d : Directive) (n : Int) : Bytes :=
  d.digits d.precision.isNone (d.sign (n < 0)) (d.whole 10 n.natAbs)

/-- A number without a sign, in the base of a letter. -/
def unsigned (d : Directive) (letter : Char) (n : Nat) : Bytes :=
  let zeros := d.precision.isNone
  match letter with
  | 'o' =>
    let digits := d.whole 8 n
    let digits := if d.has '#' && digits.head? ≠ some '0' then '0' :: digits else digits
    d.digits zeros [] digits
  | 'x' => d.digits zeros (if d.has '#' && n ≠ 0 then ['0', 'x'] else []) (d.whole 16 n)
  | 'X' =>
    d.digits zeros (if d.has '#' && n ≠ 0 then ['0', 'X'] else [])
      ((d.whole 16 n).map Char.toUpper)
  | _ => d.digits zeros [] (d.whole 10 n)

/-- A fraction in the form of a letter. -/
def fraction (d : Directive) (letter : Char) (negative : Bool) (value : Binary64.Value) : Bytes :=
  let decimal (form : Binary64.Form) : Bytes × Bytes :=
    ([], Binary64.write form (d.precision.getD 6) (d.has '#') value)
  let (front, text) := match letter.toLower, value with
    | 'a', .finite mantissa exponent =>
      (['0', 'x'], Binary64.hexadecimal d.precision (d.has '#') mantissa exponent)
    | 'f', _ => decimal .fixed
    | 'e', _ => decimal .scientific
    | _, _ => decimal .general
  let cased (text : Bytes) : Bytes := if letter.isUpper then text.map Char.toUpper else text
  d.digits (value matches .finite _ _) (d.sign negative ++ cased front) (cased text)

end Directive

/-- Prints a directive with its letter. -/
def direct (d : Directive) (letter : Char) : Print Unit := do
  match letter with
  | 'b' =>
    let (text, last) := unescape ((← argument?).getD [])
    put (d.string text)
    if last then modify fun s => { s with finished := true }
  | 'c' => put (d.pad [((← argument?).bind List.head?).getD '\x00'])
  | 's' => put (d.string ((← argument?).getD []))
  | 'd' | 'i' => put (d.signed (← number Numeral.clamp))
  | 'o' | 'u' | 'x' | 'X' => put (d.unsigned letter (← unsigned))
  | 'a' | 'A' | 'e' | 'E' | 'f' | 'F' | 'g' | 'G' =>
    let (negative, value) ← fraction
    put (d.fraction letter negative value)
  | _ => throw (d.text ++ letter :: ": invalid directive".toList)

/-- The greatest number of characters that one directive can print. -/
def sizeLimit : Nat := 50000000

/-- The number of different widths that an argument can give. -/
def widthModulus : Nat := 4294967296

/-- The number at the front of a format, or the next argument where a star stands; beside
it how it is written and what follows it. -/
def measure (format : Bytes) : Print (Option Int × Bytes × Bytes) := do
  match format with
  | '*' :: rest => return (some (Int.bmod (← number Numeral.clamp) widthModulus), ['*'], rest)
  | _ =>
    let digits := format.takeWhile Char.isDigit
    let n : Option Int := if digits.isEmpty then none else some (Numeral.value 10 digits)
    return (n, digits, format.drop digits.length)

/-- **Reads a directive and prints it**; what follows it in the format. -/
def directive (format : Bytes) : Print Bytes := do
  let flags := format.takeWhile fun c => "#-+ 0".toList.contains c
  let (width, widthText, rest) ← measure (format.drop flags.length)
  let (precision, precisionText, rest) ← match rest with
    | '.' :: rest =>
      let (n, text, rest) ← measure rest
      pure (some (n.getD 0), '.' :: text, rest)
    | _ => pure (none, [], rest)
  match rest with
  | [] => throw "missing format character".toList
  | letter :: rest =>
    let width := width.getD 0
    let precision := precision.bind fun n => if n < 0 then none else some n.toNat
    if sizeLimit < max width.natAbs (precision.getD 0) then throw "xvsnprintf failed".toList
    direct ⟨if width < 0 then '-' :: flags else flags, width.natAbs, precision,
      '%' :: flags ++ widthText ++ precisionText⟩ letter
    return rest

/-- Goes once through a format of no more than `fuel` characters. -/
def pass : Nat → Bytes → Print Unit
  | 0, _ | _, [] => pure ()
  | fuel + 1, '\\' :: behind => do
    let (c, rest) := escape behind
    put [c]
    pass fuel rest
  | fuel + 1, '%' :: '%' :: rest => do
    put ['%']
    pass fuel rest
  | fuel + 1, '%' :: format => do
    let rest ← directive format
    if (← get).finished then pure () else pass fuel rest
  | fuel + 1, c :: rest => do
    put [c]
    pass fuel rest

/-- Goes through a format at most `fuel` times. -/
def passes (format : Bytes) : Nat → Print Unit
  | 0 => pure ()
  | fuel + 1 => do
    let before := (← get).arguments.length
    pass format.length format
    let s ← get
    if s.finished || s.arguments.isEmpty || s.arguments.length = before then pure ()
    else passes format fuel

/-- **What `printf` does.** -/
structure Result where
  /-- What it prints. -/
  out : Bytes
  /-- Its complaints, in order. -/
  complaints : List Bytes
  /-- The complaint that it broke off with, if it did. -/
  fault : Option Bytes

/-- **Prints arguments by a format.** -/
def print (format : Bytes) (arguments : List Bytes) : Result :=
  match passes format (arguments.length + 1) ⟨[], arguments, [], false⟩ with
  | .ok _ s => ⟨s.printed.reverse, s.complaints.reverse, none⟩
  | .error fault s => ⟨s.printed.reverse, s.complaints.reverse, some fault⟩

end SnapBlocks.Host.Shell.Format
