import SnapBlocks.Host.World
import SnapBlocks.Host.Quotation

/-!
# Printing files one after another

The program `cat` prints the files it is given, or its input. Its options number
lines, squeeze blank ones and make bytes visible; they may stand behind files, and
a long one may be cut short as long as it stays clear which is meant.

All of that is one pass over the bytes. The pass remembers whether a line begins,
how many blank lines came last and the number of the last line that was numbered,
also from one file to the next.
-/

namespace SnapBlocks.Host.Cat

/-- **What is done to the files that are printed.** -/
structure Style where
  /-- Lines are numbered. -/
  number : Bool := false
  /-- Blank lines are not numbered. -/
  numberFilled : Bool := false
  /-- Blank lines that follow one are left out. -/
  squeeze : Bool := false
  /-- A mark is put at the end of lines. -/
  ends : Bool := false
  /-- Tabs are made visible. -/
  tabs : Bool := false
  /-- Bytes that do not print are made visible. -/
  visible : Bool := false
deriving DecidableEq, Repr

namespace Style

/-- Whether files are printed as they are. -/
def isPlain (s : Style) : Bool := s = {}

/-- The style with the option of one letter. -/
def letter? (s : Style) : Char → Option Style
  | 'A' => some { s with visible := true, ends := true, tabs := true }
  | 'b' => some { s with number := true, numberFilled := true }
  | 'e' => some { s with visible := true, ends := true }
  | 'E' => some { s with ends := true }
  | 'n' => some { s with number := true }
  | 's' => some { s with squeeze := true }
  | 't' => some { s with visible := true, tabs := true }
  | 'T' => some { s with tabs := true }
  | 'u' => some s
  | 'v' => some { s with visible := true }
  | _ => none

end Style

/-- The options that have a long name, each with its letter. -/
def longNames : List (String × Option Char) :=
  [("number-nonblank", some 'b'), ("number", some 'n'), ("squeeze-blank", some 's'),
    ("show-nonprinting", some 'v'), ("show-ends", some 'E'), ("show-tabs", some 'T'),
    ("show-all", some 'A'), ("help", none), ("version", none)]

/-- **What the arguments ask for.** -/
structure Request where
  /-- What is done to the files. -/
  style : Style := {}
  /-- The files, last first. -/
  files : List Bytes := []
  /-- Nothing is printed but information on the program. -/
  informs : Bool := false

/-- Reads the letters of an argument. -/
def letters (r : Request) : List Char → Except Bytes Request
  | [] => .ok r
  | c :: rest =>
    match r.style.letter? c with
    | some style => letters { r with style } rest
    | none => .error ("invalid option -- '".toList ++ [c, '\''])

/-- Reads a long option. -/
def long (r : Request) (argument : Bytes) : Except Bytes Request :=
  let name := argument.takeWhile (· ≠ '=')
  let fits := longNames.filter fun (full, _) => name.isPrefixOf full.toList
  let exact := fits.filter fun (full, _) => full.toList = name
  match if exact.isEmpty then fits else exact with
  | [] => .error ("unrecognized option '--".toList ++ argument ++ ['\''])
  | [(full, option)] =>
    if name.length < argument.length then
      .error ("option '--".toList ++ full.toList ++ "' doesn't allow an argument".toList)
    else
      match option with
      | some c => letters r [c]
      | none => .ok { r with informs := true }
  | several =>
    let possible := several.map fun (full, _) => " '--".toList ++ full.toList ++ ['\'']
    .error ("option '--".toList ++ argument ++ "' is ambiguous; possibilities:".toList
      ++ possible.flatten)

/-- **Reads the arguments.** -/
def request (r : Request) : List Bytes → Except Bytes Request
  | [] => .ok r
  | ['-', '-'] :: rest => .ok { r with files := rest.reverse ++ r.files }
  | ('-' :: '-' :: name) :: rest => do
    let r ← long r name
    if r.informs then return r else request r rest
  | ('-' :: c :: more) :: rest => do request (← letters r (c :: more)) rest
  | file :: rest => request { r with files := file :: r.files } rest

/-- **How far a pass has come.** -/
structure Pass where
  /-- What is printed, last first. -/
  printed : Bytes := []
  /-- Whether a line begins here. -/
  fresh : Bool := true
  /-- The number of blank lines that came last. -/
  blank : Nat := 0
  /-- The number of the last line that was numbered. -/
  count : Nat := 0
  /-- Whether a carriage return is held back. -/
  held : Bool := false

/-- A byte below 128 made visible. -/
def caret (n : Nat) : Bytes :=
  if n < 32 then ['^', Char.ofNat (n + 64)] else if n = 127 then ['^', '?'] else [Char.ofNat n]

/-- A byte made visible, as the style has it. -/
def Style.byte (s : Style) (c : Char) : Bytes :=
  if c = '\t' then (if s.tabs then ['^', 'I'] else [c])
  else if !s.visible then [c]
  else if c.toNat < 128 then caret c.toNat
  else 'M' :: '-' :: caret (c.toNat - 128)

/-- A number in front of a line. -/
def label (n : Nat) : Bytes :=
  let digits := Bytes.ofNat n
  List.replicate (6 - digits.length) ' ' ++ digits ++ ['\t']

namespace Pass

/-- Prints more. -/
def put (p : Pass) (text : Bytes) : Pass := { p with printed := text.reverse ++ p.printed }

/-- Numbers a line that begins here, if the style wants it. -/
def begin (p : Pass) (s : Style) (blank : Bool) : Pass :=
  if p.fresh && s.number && !(blank && s.numberFilled) then
    { p.put (label (p.count + 1)) with count := p.count + 1, fresh := false }
  else { p with fresh := false }

/-- Prints a carriage return that was held back. -/
def release (p : Pass) : Pass := if p.held then { p.put ['\r'] with held := false } else p

/-- **Prints one byte.** A carriage return is held back where the ends of lines are
marked, since one in front of the end is made visible. -/
def step (s : Style) (p : Pass) (c : Char) : Pass :=
  if c = '\n' then
    let isBlank := p.fresh
    if isBlank && s.squeeze && 1 ≤ p.blank then { p with blank := p.blank + 1 }
    else
      let p := p.begin s isBlank
      let p := if p.held then { p.put ['^', 'M'] with held := false } else p
      let p := p.put (if s.ends then ['$', '\n'] else ['\n'])
      { p with fresh := true, blank := if isBlank then p.blank + 1 else 0 }
  else
    let p := { p.begin s false with blank := 0 }.release
    if c = '\r' && s.ends && !s.visible then { p with held := true }
    else p.put (s.byte c)

end Pass

/-- **How far the program has come.** -/
structure Progress where
  /-- The world. -/
  world : World
  /-- The pass over the bytes. -/
  pass : Pass := {}
  /-- Whether nothing has failed. -/
  fine : Bool := true
  /-- Whether printing has failed, which ends the program. -/
  broken : Bool := false

namespace Progress

/-- Something has failed. -/
def fail (g : Progress) (c : Call) (text : Bytes) : Progress :=
  { g with world := c.complain g.world text, fine := false }

/-- Prints a text. -/
def print (g : Progress) (c : Call) (text : Bytes) : Progress :=
  if text.isEmpty then g
  else
    match c.held 1 with
    | none => g
    | some stream =>
      match g.world.write stream text with
      | .ok world => { g with world }
      | .error why => { g.fail c ("write error: ".toList ++ why.text.toList) with broken := true }

end Progress

/-- The stream of a file, whose name may stand for the input. -/
def stream (c : Call) (w : World) (name : Bytes) : Except SystemError (Stream × World) :=
  if name = ['-'] then
    match c.held 0 with
    | some stream => .ok (stream, w)
    | none => .error .badDescriptor
  else w.openFile c.held c.place .read name

/-- **Prints one file.** A file that is printed to itself would never end, unless nothing of
it is left. -/
def file (c : Call) (s : Style) (g : Progress) (name : Bytes) : Progress :=
  if g.broken then g
  else
    let title := Quotation.quote name
    match stream c g.world name with
    | .error why => g.fail c (title ++ ": ".toList ++ why.text.toList)
    | .ok (stream, w) =>
      let place? := w.place? stream
      let toItself := place?.isSome && (c.held 1).bind w.place? = place?
      match w.readAll stream with
      | .error why => { g with world := w }.fail c (title ++ ": ".toList ++ why.text.toList)
      | .ok (text, after) =>
        if toItself && !text.isEmpty then
          { g with world := w }.fail c (title ++ ": input file is output file".toList)
        else
          let g := { g with world := after }
          if s.isPlain then g.print c text
          else
            let pass := text.foldl (Pass.step s) { g.pass with printed := [] }
            { g with pass }.print c pass.printed.reverse

/-- **The program.** -/
def run : Program := fun c w =>
  match request {} c.arguments with
  | .error why =>
    let w := c.complain w why
    (c.say w 2 ("Try '".toList ++ c.name ++ " --help' for more information.\n".toList), .exited 1)
  | .ok r =>
    if r.informs then (w, .exited 0)
    else if (c.held 1).isNone then
      (c.complain w "standard output: Bad file descriptor".toList, .exited 1)
    else
      let files := if r.files.isEmpty then [['-']] else r.files.reverse
      let g := files.foldl (file c r.style) { world := w }
      let g := if g.pass.held then g.print c ['\r'] else g
      let g := if !g.broken && files.contains ['-'] && (c.held 0).isNone then
          g.fail c "closing standard input: Bad file descriptor".toList
        else g
      (g.world, .exited (if g.fine then 0 else 1))

end SnapBlocks.Host.Cat
