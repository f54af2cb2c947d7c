import SnapBlocks.Host.Bytes

/-!
# Names in messages

A name that is printed in a message stands there as it could be typed at a shell:
bare if nothing in it is special, else between quotation marks. Single marks are
the rule. Double ones serve a name that holds a single mark and is harmless between
double ones. Bytes that do not print are written as escapes between marks of their
own kind, which begin with a dollar sign.
-/

namespace SnapBlocks.Host.Quotation

/-- Whether a character prints. -/
def prints (c : Char) : Bool := ' ' ≤ c && c ≤ '~'

/-- Whether a character stands for itself between quotation marks of any kind. -/
def harmless (c : Char) : Bool := c.isAlphanum || "%+,-./:@]_' ".toList.contains c

/-- Whether a name stands for itself between double marks. The two signs that are special
in front of a name are harmless there, and only there. -/
def suitsDouble (name : Bytes) : Bool :=
  match name with
  | [] => true
  | c :: rest => (harmless c || c = '#' || c = '~') && rest.all harmless

/-- Whether a name has to be quoted. A colon is special because a message puts one
behind the name. -/
def needed (name : Bytes) : Bool :=
  name.isEmpty || name = ['{'] || name = ['}']
    || name.any (fun c => !prints c || " !\"$&()*;<=>[^`|'\\?:".toList.contains c)
    || name.head? = some '#' || name.head? = some '~'

/-- The three octal digits of a byte. -/
def octal (c : Char) : Bytes :=
  [c.toNat / 64, c.toNat / 8 % 8, c.toNat % 8].map fun digit => Char.ofNat (48 + digit)

/-- The escape of a byte that does not print. -/
def escape (c : Char) : Bytes :=
  match c.toNat with
  | 7 => ['\\', 'a']
  | 8 => ['\\', 'b']
  | 9 => ['\\', 't']
  | 10 => ['\\', 'n']
  | 11 => ['\\', 'v']
  | 12 => ['\\', 'f']
  | 13 => ['\\', 'r']
  | _ => '\\' :: octal c

/-- What goes between single quotation marks; `escaping` says whether the marks
before were those for escapes. -/
def body (escaping : Bool) : Bytes → Bytes
  | [] => []
  | c :: rest =>
    if prints c then
      let mark := if escaping then ['\'', '\''] else []
      if c = '\'' then (if escaping then ['\''] else []) ++ '\'' :: '\\' :: '\'' :: '\''
        :: body false rest
      else mark ++ c :: body false rest
    else (if escaping then [] else ['\'', '$', '\'']) ++ escape c ++ body true rest

/-- **A name as it stands in a message.** -/
def quote (name : Bytes) : Bytes :=
  if !needed name then name
  else if name.contains '\'' && suitsDouble name then '"' :: name ++ ['"']
  else '\'' :: body false name ++ ['\'']

end SnapBlocks.Host.Quotation
