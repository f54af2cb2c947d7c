import SnapBlocks.Host.Bytes

/-!
# Patterns

A pattern is a text of which some characters were quoted. A quoted character matches
only itself. Of the others, a question mark matches any character, a star any text,
and brackets any of the characters, ranges and classes that they hold. A backslash
that is not quoted quotes the next character, and a bracket that is not closed is
but a character.
-/

namespace SnapBlocks.Host.Shell

/-- **What brackets can hold.** -/
inductive Member where
  /-- The characters from one to another. -/
  | range (first last : Char)
  /-- The characters of a class. -/
  | kind (name : String)
deriving DecidableEq, Repr

/-- **An element of a pattern.** -/
inductive Element where
  /-- A character. -/
  | one (c : Char)
  /-- Any character. -/
  | any
  /-- Any text. -/
  | many
  /-- A character that is in a set, or that is not. -/
  | set (inverted : Bool) (members : List Member)
deriving DecidableEq, Repr

/-- **A pattern.** -/
abbrev Pattern := List Element

namespace Pattern

/-- The classes of characters that have a name. -/
def classes : List (String × (Char → Bool)) :=
  let print (c : Char) : Bool := ' ' ≤ c && c ≤ '~'
  let space (c : Char) : Bool := c = ' ' || '\t' ≤ c && c ≤ '\r'
  [("alnum", Char.isAlphanum), ("alpha", Char.isAlpha), ("blank", fun c => c = ' ' || c = '\t'),
    ("cntrl", fun c => c < ' ' || c = '\x7f'), ("digit", Char.isDigit),
    ("graph", fun c => print c && c ≠ ' '), ("lower", Char.isLower), ("print", print),
    ("punct", fun c => print c && c ≠ ' ' && !c.isAlphanum), ("space", space),
    ("upper", Char.isUpper),
    ("xdigit", fun c => c.isDigit || 'a' ≤ c && c ≤ 'f' || 'A' ≤ c && c ≤ 'F')]

/-- The place of a character in the order of ranges, in which the bytes from 128 on
come first. -/
def rank (c : Char) : Nat := if c.toNat < 128 then c.toNat + 128 else c.toNat - 128

/-- Whether a member of brackets holds a character. -/
def Member.holds (c : Char) : Member → Bool
  | .range first last => rank first ≤ rank c && rank c ≤ rank last
  | .kind name => ((classes.lookup name).map (· c)).getD false

/-- A character of the text of a pattern, and whether it was quoted. -/
abbrev Marked := Bool × Char

/-- The class named at the front of a text, and what follows it. -/
def class? (text : List Marked) : Option (String × List Marked) :=
  classes.findSome? fun (name, _) =>
    let spelled := ':' :: name.toList ++ [':', ']']
    if spelled.isPrefixOf (text.map (·.2)) then some (name, text.drop spelled.length) else none

/-- The character at the front, behind a backslash that quotes it. -/
def unescaped : List Marked → Option (Char × List Marked)
  | (false, '\\') :: (_, c) :: rest => some (c, rest)
  | (_, c) :: rest => some (c, rest)
  | [] => none

/-- **Reads what brackets hold** up to the one that closes them. The first member may
be a closing bracket itself. Nothing comes of brackets that are not closed. -/
def members : Nat → Bool → List Marked → List Member → Option (List Member × List Marked)
  | 0, _, _, _ => none
  | _ + 1, false, (false, ']') :: rest, done => some (done.reverse, rest)
  | fuel + 1, _, text, done =>
    match text with
    | [] => none
    | (quoted, c) :: rest =>
      match if !quoted && c = '[' then class? rest else none with
      | some (name, rest) => members fuel false rest (.kind name :: done)
      | none =>
        match unescaped ((quoted, c) :: rest) with
        | none => none
        | some (first, rest) =>
          match rest with
          | (false, '-') :: next :: after =>
            if next = (false, ']') then members fuel false rest (.range first first :: done)
            else
              match unescaped (next :: after) with
              | none => none
              | some (last, rest) => members fuel false rest (.range first last :: done)
          | _ => members fuel false rest (.range first first :: done)

/-- Reads a pattern of no more than `fuel` characters. -/
def read : Nat → List Marked → Pattern
  | 0, _ | _, [] => []
  | fuel + 1, (true, c) :: rest => .one c :: read fuel rest
  | fuel + 1, (false, '?') :: rest => .any :: read fuel rest
  | fuel + 1, (false, '*') :: rest => .many :: read fuel rest
  | fuel + 1, (false, '\\') :: (_, c) :: rest => .one c :: read fuel rest
  | fuel + 1, (false, '[') :: rest =>
    let (inverted, inside) := match rest with
      | (false, '!') :: inside => (true, inside)
      | _ => (false, rest)
    match members inside.length.succ true inside [] with
    | some (ms, rest) => .set inverted ms :: read fuel rest
    | none => .one '[' :: read fuel rest
  | fuel + 1, (false, c) :: rest => .one c :: read fuel rest

/-- **The pattern that a text stands for.** -/
def ofMarked (text : List Marked) : Pattern := read text.length text

/-- Whether an element matches a character. -/
def Element.admits (c : Char) : Element → Bool
  | .one d => c = d
  | .any => true
  | .many => false
  | .set inverted ms => ms.any (Member.holds c) != inverted

/-- For each end of a text, from all of it to nothing, whether a pattern matches it. -/
def ends : Pattern → Bytes → List Bool
  | [], text => text.map (fun _ => false) ++ [true]
  | .many :: rest, text =>
    (ends rest text).foldr (fun here (later : List Bool) => (here || later.headD false) :: later) []
  | e :: rest, text =>
    text.zipWith (fun c later => Element.admits c e && later) (ends rest text).tail ++ [false]

/-- **Whether a pattern matches a text** as a whole. -/
def matches? (p : Pattern) (text : Bytes) : Bool := (p.ends text).headD false

/-- Whether a pattern is a text and nothing more. -/
def isPlain (text : List Marked) : Bool :=
  text.all fun (quoted, c) => quoted || !"*?[".toList.contains c

/-- A text without the end that matches, if one does; the shortest or the longest such. -/
def cutEnd? (p : Pattern) (longest : Bool) (text : Bytes) : Option Bytes :=
  let ends := p.ends text
  if longest then (ends.findIdx? id).map text.take
  else (ends.reverse.findIdx? id).map fun n => text.take (text.length - n)

/-- A text without the beginning that matches, if one does; the shortest or the longest such. What
matches a text matches it backward. -/
def cutStart? (p : Pattern) (longest : Bool) (text : Bytes) : Option Bytes :=
  (cutEnd? p.reverse longest text.reverse).map List.reverse

/-- **Cuts off the beginning of a row of texts.** It is looked for in the first text. If a
longest one is all of that, nothing is left of any. -/
def cutStart (p : Pattern) (longest : Bool) : List Bytes → List Bytes
  | [] => []
  | first :: rest =>
    if longest && !rest.isEmpty && p.matches? first then [[]]
    else (cutStart? p longest first).getD first :: rest

/-- Cuts off the shortest end of a row of texts, which is given backward, and all that
stands behind it. -/
def cutBackward? (p : Pattern) : List Bytes → Option (List Bytes)
  | [] => none
  | last :: before =>
    match cutEnd? p false last with
    | some text => some (text :: before)
    | none => cutBackward? p before

/-- **Cuts off the end of a row of texts**, and all that stands behind it. A longest one is
looked for in the first text. -/
def cutEnd (p : Pattern) (longest : Bool) (texts : List Bytes) : List Bytes :=
  let found :=
    if longest then (texts.head?.bind (cutEnd? p true)).map fun text => [text]
    else (cutBackward? p texts.reverse).map List.reverse
  found.getD texts

end Pattern

end SnapBlocks.Host.Shell
