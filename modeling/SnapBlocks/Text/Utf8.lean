/-!
# Reading bytes as UTF-8

`decode` reads any bytes. Well-formed sequences become their characters. A
sequence that breaks off, or a byte that starts none, becomes one replacement
character, U+FFFD: the longest beginning of a well-formed sequence is replaced as
a whole, and reading goes on with the byte that did not fit.

The reader keeps a sequence that is not finished as `Pending`: what its bytes say
so far, how many bytes are still to come, and the bounds of the next one. The
bounds are narrower than those of a general continuation byte only behind the
first byte, where they rule out overlong forms, surrogates and code points beyond
U+10FFFF.
-/

namespace SnapBlocks.Text.Utf8

/-- **A sequence of bytes that has begun and is not finished.** -/
structure Pending where
  /-- The bits of the code point read so far. -/
  value : Nat
  /-- The number of bytes to come behind the next one. -/
  further : Nat
  /-- The least byte that can come next. -/
  lowest : UInt8
  /-- The greatest byte that can come next. -/
  highest : UInt8
deriving DecidableEq, Repr

/-- The text read so far, and the sequence in progress. -/
structure Reader where
  /-- The characters read. -/
  text : String
  /-- The sequence that has begun, if one has. -/
  pending : Option Pending

/-- The character that stands for bytes that are not UTF-8. -/
def replacement : Char := '\uFFFD'

/-- A sequence of `length` bytes behind its first, which gives the bits `value`. -/
def sequence (value length : Nat) (lowest highest : UInt8) : Pending :=
  ⟨value, length - 1, lowest, highest⟩

/-- What the first byte of a sequence of several bytes announces. -/
def announce? (byte : UInt8) : Option Pending :=
  let n := byte.toNat
  if n < 0xC2 then none
  else if n < 0xE0 then some (sequence (n - 0xC0) 1 0x80 0xBF)
  else if n = 0xE0 then some (sequence 0 2 0xA0 0xBF)
  else if n = 0xED then some (sequence 13 2 0x80 0x9F)
  else if n < 0xF0 then some (sequence (n - 0xE0) 2 0x80 0xBF)
  else if n = 0xF0 then some (sequence 0 3 0x90 0xBF)
  else if n < 0xF4 then some (sequence (n - 0xF0) 3 0x80 0xBF)
  else if n = 0xF4 then some (sequence 4 3 0x80 0x8F)
  else none

namespace Reader

/-- The reader before the first byte. -/
def start : Reader := ⟨"", none⟩

/-- Reads a byte at which a character begins. -/
def first (text : String) (byte : UInt8) : Reader :=
  if byte < 0x80 then ⟨text.push (Char.ofNat byte.toNat), none⟩
  else match announce? byte with
    | some pending => ⟨text, some pending⟩
    | none => ⟨text.push replacement, none⟩

/-- **Reads one byte.** -/
def step (r : Reader) (byte : UInt8) : Reader :=
  match r.pending with
  | none => first r.text byte
  | some p =>
    if p.lowest ≤ byte && byte ≤ p.highest then
      let value := p.value * 64 + (byte.toNat - 0x80)
      match p.further with
      | 0 => ⟨r.text.push (Char.ofNat value), none⟩
      | further + 1 => ⟨r.text, some ⟨value, further, 0x80, 0xBF⟩⟩
    else first (r.text.push replacement) byte

/-- The text at the end of the bytes. -/
def finish (r : Reader) : String :=
  match r.pending with
  | none => r.text
  | some _ => r.text.push replacement

end Reader

/-- **The text that some bytes stand for.** -/
def decode (bytes : List UInt8) : String := (bytes.foldl Reader.step .start).finish

/-- **The bytes of a text.** -/
def encode (text : String) : List UInt8 := text.toUTF8.toList

end SnapBlocks.Text.Utf8
