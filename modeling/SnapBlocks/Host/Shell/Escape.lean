import SnapBlocks.Host.Bytes

/-!
# Escapes

A backslash and the characters behind it can stand for any byte. An octal escape has
up to three digits. In an argument, a zero in front of them does not count as one of
the three; and there a `c` behind the backslash says that nothing further is printed.
-/

namespace SnapBlocks.Host.Shell

/-- The byte that a character behind a backslash names. -/
def control? : Char → Option Nat
  | 'a' => some 7
  | 'b' => some 8
  | 'e' => some 27
  | 'f' => some 12
  | 'n' => some 10
  | 'r' => some 13
  | 't' => some 9
  | 'v' => some 11
  | '\\' => some 92
  | _ => none

/-- Whether a character is an octal digit. -/
def isOctal (c : Char) : Bool := '0' ≤ c && c ≤ '7'

/-- **The character that an escape stands for**, and what follows the escape. A backslash
in front of anything else stands for itself. -/
def escape (behind : Bytes) : Char × Bytes :=
  match behind with
  | [] => ('\\', [])
  | c :: rest =>
    match control? c with
    | some byte => (Char.ofNat byte, rest)
    | none =>
      let digits := (behind.take 3).takeWhile isOctal
      if digits.isEmpty then ('\\', behind)
      else
        let value := digits.foldl (fun n d => n * 8 + (d.toNat - 48)) 0
        (Char.ofNat (value % 256), behind.drop digits.length)

/-- What follows a zero that does not count in front of octal digits. -/
def withoutZero : Bytes → Bytes
  | '0' :: c :: rest => if isOctal c then c :: rest else '0' :: c :: rest
  | text => text

/-- The text of an argument with escapes, of which no more than `fuel` are read, and
whether it says that nothing further is printed. -/
def unescapeWithin : Nat → Bytes → Bytes × Bool
  | 0, _ | _, [] => ([], false)
  | _ + 1, '\\' :: 'c' :: _ => ([], true)
  | fuel + 1, '\\' :: behind =>
    let (c, rest) := escape (withoutZero behind)
    let (more, last) := unescapeWithin fuel rest
    (c :: more, last)
  | fuel + 1, c :: rest =>
    let (more, last) := unescapeWithin fuel rest
    (c :: more, last)

/-- **The text of an argument with escapes**, and whether nothing further is printed. -/
def unescape (text : Bytes) : Bytes × Bool := unescapeWithin text.length text

/-- The texts of some arguments with one blank between every two of them, and whether
nothing further is printed. -/
def unescapeAll : List Bytes → Bytes × Bool
  | [] => ([], false)
  | [argument] => unescape argument
  | argument :: rest =>
    let (text, last) := unescape argument
    if last then (text, true)
    else
      let (more, last) := unescapeAll rest
      (text ++ ' ' :: more, last)

/-- **What `echo` prints**: its arguments with one blank between them and a line feed behind,
which an argument `-n` in front suppresses. -/
def echo (arguments : List Bytes) : Bytes :=
  let (quiet, texts) := match arguments with
    | ['-', 'n'] :: rest => (true, rest)
    | all => (false, all)
  let (text, last) := unescapeAll texts
  if quiet || last then text else text ++ ['\n']

end SnapBlocks.Host.Shell
