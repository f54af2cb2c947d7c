import SnapBlocks.Host.Shell.Command

/-!
# Tokens, and how far a script has been read

A script is read from a supply, of which a block at a time is taken, and from that a
line at a time. What the commands of the script read comes from the same supply when
the script is the input of the shell, so it matters where a block ends: the reader
takes no block before it needs one. Bytes of value zero are dropped.

A word can be a short name for other words. Their text is then inserted in front of
what is left of the line. While it is being read, the name stands for itself.

A backslash in front of a line feed joins two lines, nearly everywhere. Where it
does, characters are read with `nextJoined`.
-/

namespace SnapBlocks.Host.Shell

/-- **A token of a script.** -/
inductive Token where
  /-- The end of the script. -/
  | endOfFile
  /-- The end of a line. -/
  | newline
  /-- A sign that stands between commands or in them. -/
  | sign (text : String)
  /-- A word that is reserved where a command can begin. -/
  | keyword (text : String)
  /-- A redirection. -/
  | redirection
  /-- Any other word. -/
  | word
deriving DecidableEq, Repr, Inhabited

namespace Token

/-- What a token is called in complaints. -/
def title : Token → String
  | endOfFile => "end of file"
  | newline => "newline"
  | sign text | keyword text => s!"\"{text}\""
  | redirection => "redirection"
  | word => "word"

/-- Whether a list of commands ends in front of a token. -/
def endsList : Token → Bool
  | endOfFile => true
  | sign text => text = ")" || text = ";;"
  | keyword text => ["do", "done", "elif", "else", "esac", "fi", "then", "\x7d"].contains text
  | newline | redirection | word => false

/-- The words that are reserved. -/
def keywords : List String :=
  ["!", "case", "do", "done", "elif", "else", "esac", "fi", "for", "if", "in", "then", "until",
    "while", "\x7b", "\x7d"]

/-- The keyword with a text. -/
def ofKeyword? (text : Bytes) : Option Token :=
  (keywords.find? fun word => word.toList = text).map keyword

end Token

/-- **What a redirection asks for**, before the word behind it is read. -/
inductive Operator where
  /-- A file or descriptor. -/
  | target (descriptor : Nat) (direction : Direction)
  /-- A here-document, and whether tabs in front of its lines are dropped. -/
  | document (descriptor : Nat) (tabs : Bool)
deriving DecidableEq, Repr, Inhabited

/-- **A here-document whose text is still to come.** -/
structure Awaited where
  /-- Its number. -/
  number : Nat
  /-- The line that ends it. -/
  ending : Bytes
  /-- Whether tabs in front of its lines are dropped. -/
  tabs : Bool
  /-- Whether its text means nothing but itself. -/
  verbatim : Bool

/-- **A fault in a script.** -/
structure Mistake where
  /-- The line that the reader had reached. -/
  line : Nat
  /-- What is wrong. -/
  text : String
deriving DecidableEq, Repr

/-- **A text that has been inserted** for a short name. -/
structure Insertion where
  /-- The name, and those whose texts ended right in front of it. -/
  names : List Bytes
  /-- Whether the word behind the text can be a short name, too. -/
  goesOn : Bool
  /-- What stands behind the text. -/
  behind : Bytes

/-- What the next token can be, beside a plain one. -/
structure Expectation where
  /-- Whether line feeds in front of it are passed over. -/
  passesNewlines : Bool := false
  /-- Whether it can be a keyword. -/
  seeksKeyword : Bool := false
  /-- Whether it can be a short name. -/
  seeksShort : Bool := false

/-- **How far a script has been read.** -/
structure Reader where
  /-- What is at hand. -/
  rest : Bytes
  /-- What has been taken from the supply, behind what is at hand. -/
  block : Bytes := []
  /-- What has not been taken yet. -/
  supply : Bytes
  /-- The number of bytes that have been taken. -/
  taken : Nat := 0
  /-- The line that has been reached. -/
  line : Nat := 1
  /-- The last token. -/
  last : Token := .endOfFile
  /-- Whether the last token is to be read again. -/
  again : Bool := false
  /-- What the next token can be. -/
  expected : Expectation := {}
  /-- The last word. -/
  word : Word Command := []
  /-- Whether something in the last word was quoted. -/
  quoted : Bool := false
  /-- The last redirection. -/
  operator : Operator := default
  /-- The here-documents that are still to come, in order. -/
  awaited : List Awaited := []
  /-- The here-documents read so far, by number. -/
  documents : Array (Word Command) := #[]
  /-- The short names and their texts. -/
  shorts : List (Bytes × Bytes) := []
  /-- The texts of short names that are being read, the innermost first. -/
  inserted : List Insertion := []
  /-- The short names whose texts ended in front of the last character. -/
  ended : List Bytes := []
  /-- Whether the lines that are taken are kept, to be shown. -/
  shows : Bool := false
  /-- The lines that were kept, latest first. -/
  shown : List Bytes := []
  /-- What is shown before each line that goes on with a command. -/
  prompt : Bytes := []
  /-- Whether the last line that was taken was a whole one, and of the same command. -/
  goesOn : Bool := false

namespace Reader

/-- The number of bytes in a block. -/
def blockSize : Nat := 8192

/-- The first line of a text, behind what has been read of it, and what follows. -/
def cutLine : List Char → Bytes → Bytes × Bytes
  | taken, [] => (taken.reverse, [])
  | taken, '\n' :: rest => (('\n' :: taken).reverse, rest)
  | taken, c :: rest => cutLine (c :: taken) rest

/-- The reader with the next line at hand, if there is one. -/
def takeLine (r : Reader) : Reader :=
  let r := if r.block.isEmpty then
      let block := r.supply.take blockSize
      { r with
        block := block.filter (· ≠ '\x00')
        supply := r.supply.drop blockSize
        taken := r.taken + block.length }
    else r
  let (rest, block) := cutLine [] r.block
  let shown := if r.goesOn && !r.prompt.isEmpty then r.prompt :: r.shown else r.shown
  { r with
    rest
    block
    shown := if r.shows && !rest.isEmpty then rest :: shown else shown
    goesOn := rest.getLast? = some '\n' }

/-- The reader behind the texts that were inserted and have been read to their ends. -/
def leaveInserted : List Insertion → Reader → Reader
  | [], r => { r with inserted := [] }
  | i :: outer, r =>
    let r := { r with
      ended := i.names ++ r.ended
      expected := { r.expected with seeksShort := r.expected.seeksShort || i.goesOn } }
    if i.behind.isEmpty then leaveInserted outer r
    else { r with rest := i.behind, inserted := outer }

/-- **The reader with something at hand**, if there is anything left. -/
def refill (r : Reader) : Reader :=
  let r := if r.ended.isEmpty then r else { r with ended := [] }
  if !r.rest.isEmpty then r
  else
    let r := leaveInserted r.inserted r
    if r.rest.isEmpty then r.takeLine else r

/-- The text that a name is short for, unless that text is being read. -/
def short? (r : Reader) (name : Bytes) : Option Bytes :=
  if r.ended.contains name || r.inserted.any (·.names.contains name) then none
  else r.shorts.lookup name

/-- The reader before the text of a short name. -/
def insert (r : Reader) (name text : Bytes) : Reader :=
  if text.isEmpty then r
  else
    let last := text.getLast?
    { r with
      rest := text
      ended := []
      inserted := ⟨name :: r.ended, last = some ' ' || last = some '\t', r.rest⟩ :: r.inserted }

end Reader

/-- How a list of commands is read. -/
inductive Extent where
  /-- To the end of the line. -/
  | line
  /-- To a token that ends lists, with at least one command. -/
  | several
  /-- To a token that ends lists, also without any command. -/
  | any
deriving DecidableEq, Repr

/-- What reading needs besides the reader: a bound on the number of steps, and the
way to read the commands inside of words. -/
structure Scope where
  /-- No loop of the reader takes more steps than this. -/
  fuel : Nat
  /-- Reads a list of commands inside of a word. -/
  list : Extent → EStateM Mistake Reader Command

/-- **Reading a script.** -/
abbrev Parse := ReaderT Scope (EStateM Mistake Reader)

namespace Parse

/-- Stops at a fault on the line that has been reached. -/
def fail {α : Type} (text : String) : Parse α := do
  throw ⟨(← get).line, text⟩

/-- **The next character**, or nothing at the end. -/
def next : Parse (Option Char) := do
  let r := (← get).refill
  match r.rest with
  | [] => set r; return none
  | c :: rest => set { r with rest }; return some c

/-- Takes back a character. -/
def back : Option Char → Parse Unit
  | none => pure ()
  | some c => modify fun r => { r with rest := c :: r.rest }

/-- Takes back characters, of which the last was read first. -/
def backAll (taken : List Char) : Parse Unit :=
  modify fun r => { r with rest := taken.reverse ++ r.rest }

/-- Counts a line. -/
def countLine : Parse Unit := modify fun r => { r with line := r.line + 1 }

/-- The next character behind joints of lines, at most `fuel` of them. -/
def nextJoinedWithin : Nat → Parse (Option Char)
  | 0 => next
  | fuel + 1 => do
    match ← next with
    | some '\\' =>
      match ← next with
      | some '\n' => countLine; nextJoinedWithin fuel
      | c => back c; return some '\\'
    | c => return c

/-- **The next character behind joints of lines.** -/
def nextJoined : Parse (Option Char) := do nextJoinedWithin (← read).fuel

/-- Goes on if the next character behind joints of lines is a given one. -/
def takes (c : Char) : Parse Bool := do
  let found ← nextJoined
  if found = some c then return true
  else back found; return false

/-- Passes over characters up to the end of the line. -/
def skipLine : Nat → Parse Unit
  | 0 => pure ()
  | fuel + 1 => do
    match ← next with
    | none => pure ()
    | some '\n' => back (some '\n')
    | some _ => skipLine fuel

/-- Says what the next token can be. -/
def expect (expected : Expectation) : Parse Unit := modify fun r => { r with expected }

/-- Lets the next token begin a command; line feeds in front of it may be passed over. -/
def expectCommand (passesNewlines : Bool) : Parse Unit := expect ⟨passesNewlines, true, true⟩

/-- Has the last token read again. -/
def pushBack : Parse Unit := modify fun r => { r with again := true }

/-- Notes the token that has been read. -/
def found (t : Token) : Parse Token := do
  modify fun r => { r with last := t }
  return t

end Parse

end SnapBlocks.Host.Shell
