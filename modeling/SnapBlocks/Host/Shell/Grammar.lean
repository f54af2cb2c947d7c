import SnapBlocks.Host.Shell.Reading

/-!
# Reading commands

A script is a sequence of lists of commands, and a list goes to the end of its line
unless a command in it goes further. The reader looks at one token at a time. A token
that ends a command is given back, since it may mean something to what is around.

Commands hold lists of commands, so the functions here call, through the scope, what
is only defined at the end: `listWithin` ties the knot, up to a depth that no script
reaches.
-/

namespace SnapBlocks.Host.Shell

/-- The commands that can not be replaced by functions, and whose errors end the shell. -/
def specialNames : List String :=
  [".", ":", "break", "continue", "eval", "exec", "exit", "export", "local", "readonly", "return",
    "set", "shift", "times", "trap", "unset"]

/-- Whether a name is that of a special command. -/
def isSpecialName (name : Bytes) : Bool := specialNames.any fun special => special.toList = name

namespace Parse

/-- Reads a list of commands inside of another. -/
def inner (extent : Extent) : Parse Command := do (← read).list extent

/-- **Reads the word of a redirection** whose operator has been read. -/
def redirection : Parse (Redirection Command) := do
  match (← get).operator with
  | .target descriptor direction =>
    if (← token) ≠ .word then unexpected none
    return .target descriptor direction (← get).word
  | .document descriptor tabs =>
    if (← tokenWith true) ≠ .word then unexpected none
    let r ← get
    let number := r.documents.size
    set { r with
      documents := r.documents.push []
      awaited := r.awaited ++ [(⟨number, Word.letters r.word, tabs, r.quoted⟩ : Awaited)] }
    return .document descriptor number

/-- Reads the redirections behind a command. -/
def redirections : Nat → List (Redirection Command) → Parse (List (Redirection Command))
  | 0, done => return done.reverse
  | fuel + 1, done => do
    if (← token) = .redirection then redirections fuel ((← redirection) :: done)
    else pushBack; return done.reverse

/-- **The parts of a simple command** read so far, each last first. -/
structure Parts where
  /-- The assignments. -/
  assignments : List (Bytes × Word Command) := []
  /-- The words. -/
  words : List (Word Command) := []
  /-- The redirections. -/
  redirections : List (Redirection Command) := []

/-- The one word that has been read, if that is all. -/
def Parts.onlyWord? (p : Parts) : Option (Word Command) :=
  match p.assignments, p.words, p.redirections with
  | [], [word], [] => some word
  | _, _, _ => none

/-- The command that has been read, if nothing more belongs to it. -/
def Parts.command (p : Parts) (line : Nat) : Command :=
  .simple line p.assignments.reverse p.words.reverse p.redirections.reverse

/-- Reads the definition of a function, whose name and first parenthesis have been read. -/
def function (command : Parse Command) (name : Word Command) : Parse Command := do
  require (.sign ")")
  match Word.bare? name with
  | some text =>
    if isName text && !isSpecialName text then
      expectCommand true
      let line := (← get).line
      return .function line text (← command)
    else fail "Bad function name"
  | none => fail "Bad function name"

/-- **Reads a simple command.** Assignments stand in front of the first word. -/
def simple (command : Parse Command) (line : Nat) : Nat → Parts → Parse Command
  | 0, p => return p.command line
  | fuel + 1, p => do
    expect ⟨false, false, p.words.isEmpty⟩
    match ← token with
    | .word =>
      let word := (← get).word
      match if p.words.isEmpty then Word.assignment? word else none with
      | some assignment =>
        simple command line fuel { p with assignments := assignment :: p.assignments }
      | none => simple command line fuel { p with words := word :: p.words }
    | .redirection =>
      let r ← redirection
      simple command line fuel { p with redirections := r :: p.redirections }
    | .sign "(" =>
      match p.onlyWord? with
      | some name => function command name
      | none => pushBack; return p.command line
    | _ => pushBack; return p.command line

/-- Reads a choice behind its first keyword, up to the one that ends it. -/
def choice : Nat → Parse Command
  | 0 => return .nothing
  | fuel + 1 => do
    let test ← inner .several
    require (.keyword "then")
    let yes ← inner .several
    match ← token with
    | .keyword "elif" => return .choice test yes (← choice fuel)
    | .keyword "else" => return .choice test yes (← inner .several)
    | _ => pushBack; return .choice test yes .nothing

/-- Reads words as long as there are any; the token behind them has been read, too. -/
def words : Nat → List (Word Command) → Parse (List (Word Command))
  | 0, done => return done.reverse
  | fuel + 1, done => do
    if (← token) = .word then words fuel ((← get).word :: done) else return done.reverse

/-- **Reads a loop over words** behind its keyword. Without words it is over all
parameters. -/
def each (line : Nat) : Parse Command := do
  let t ← token
  let r ← get
  match if t = .word && !r.quoted then Word.bare? r.word else none with
  | some name =>
    if !isName name then fail "Bad for loop variable"
    expectCommand true
    let items ← do
      if (← token) = .keyword "in" then
        let items ← words (← read).fuel []
        let last := (← get).last
        if last ≠ .newline && last ≠ .sign ";" then unexpected none
        pure items
      else
        if (← get).last ≠ .sign ";" then pushBack
        pure [[.value true ['@'] .plain false []]]
    expectCommand true
    require (.keyword "do")
    let body ← inner .several
    return .each line name items body
  | none => fail "Bad for loop variable"

/-- Reads the patterns of a clause, of which the first has been read, and the
parenthesis behind them. -/
def patterns : Nat → List (Word Command) → Parse (List (Word Command))
  | 0, done => return done.reverse
  | fuel + 1, done => do
    let done := (← get).word :: done
    if (← token) = .sign "|" then
      let _ ← token
      patterns fuel done
    else if (← get).last = .sign ")" then return done.reverse
    else unexpected (some (.sign ")"))

/-- **Reads the clauses of a choice by patterns**, and the keyword that ends them. -/
def clauses : Nat → List (Clause Command) → Parse (List (Clause Command))
  | 0, done => return done.reverse
  | fuel + 1, done => do
    expect ⟨true, true, false⟩
    match ← token with
    | .keyword "esac" => return done.reverse
    | t =>
      if t = .sign "(" then
        let _ ← token
      let patterns ← patterns (← read).fuel []
      let body ← inner .any
      let done := ⟨patterns, body⟩ :: done
      expect ⟨true, true, false⟩
      match ← token with
      | .keyword "esac" => return done.reverse
      | .sign ";;" => clauses fuel done
      | _ => unexpected (some (.sign ";;"))

/-- Reads a choice by patterns behind its keyword. -/
def select (line : Nat) : Parse Command := do
  if (← token) ≠ .word then unexpected (some .word)
  let word := (← get).word
  expectCommand true
  require (.keyword "in")
  return .select line word (← clauses (← read).fuel [])

/-- The command with redirections behind it. -/
def redirect (line : Nat) (command : Command) (rs : List (Redirection Command)) : Command :=
  match rs, command with
  | [], _ => command
  | _, .subshell line inside _ => .subshell line inside rs
  | _, _ => .redirected line command rs

/-- **Reads a command.** The body of a function is one as well, at most `fuel` deep. -/
def commandWithin : Nat → Parse Command
  | 0 => fail "end of file unexpected"
  | fuel + 1 => do
    let line := (← get).line
    let steps := (← read).fuel
    let close (c : Command) (t : Token) : Parse (Option Command) := do
      require t
      return some c
    let compound ← match ← token with
      | .keyword "if" => close (← choice steps) (.keyword "fi")
      | .keyword "while" | .keyword "until" =>
        let success := (← get).last = .keyword "while"
        let test ← inner .several
        require (.keyword "do")
        close (.loop success test (← inner .several)) (.keyword "done")
      | .keyword "for" => close (← each line) (.keyword "done")
      | .keyword "case" => pure (some (← select line))
      | .sign "(" => close (.subshell line (← inner .several) []) (.sign ")")
      | .keyword "\x7b" => close (← inner .several) (.keyword "\x7d")
      | .word | .redirection => pure none
      | _ => unexpected none
    match compound with
    | some c =>
      expectCommand false
      return redirect line c (← redirections steps [])
    | none =>
      pushBack
      simple (commandWithin fuel) (← get).line steps {}

/-- Reads a command. -/
def command : Parse Command := do commandWithin (← read).fuel

/-- Reads the commands of a pipeline behind the first one. -/
def pipelineRest : Nat → List Command → Parse (List Command)
  | 0, done => return done.reverse
  | fuel + 1, done => do
    if (← token) = .sign "|" then
      expectCommand true
      pipelineRest fuel ((← command) :: done)
    else pushBack; return done.reverse

/-- **Reads a pipeline**, which may be negated as a whole. -/
def pipeline : Parse Command := do
  let negated ← do
    if (← token) = .keyword "!" then expectCommand false; pure true
    else pushBack; pure false
  let first ← command
  let c := match ← pipelineRest (← read).fuel [first] with
    | [single] => single
    | several => .pipeline several
  return if negated then .negated c else c

/-- Reads what is joined to a command by its success or failure. -/
def joined : Nat → Command → Parse Command
  | 0, first => return first
  | fuel + 1, first => do
    match ← token with
    | .sign "&&" =>
      expectCommand true
      joined fuel (.joined .onSuccess first (← pipeline))
    | .sign "||" =>
      expectCommand true
      joined fuel (.joined .onFailure first (← pipeline))
    | _ => pushBack; return first

/-- One command after another. -/
def after : Command → Command → Command
  | .nothing, c => c
  | done, c => .joined .always done c

/-- Reads the rest of a list of commands, of which some may have been read. -/
def listRest (extent : Extent) : Nat → Bool → Command → Parse Command
  | 0, _, done => return done
  | fuel + 1, started, done => do
    expectCommand (extent ≠ .line)
    let t ← token
    match t with
    | .newline => documents; return done
    | .endOfFile => documents; pushBack; return done
    | _ =>
      pushBack
      if (extent = .any || extent = .several && started) && t.endsList then return done
      let first ← pipeline
      let c ← joined (← read).fuel first
      let t ← token
      let done := after done (if t = .sign "&" then .background c else c)
      match t with
      | .endOfFile => documents; pushBack; return done
      | .newline => pushBack; listRest extent fuel true done
      | .sign ";" | .sign "&" => listRest extent fuel true done
      | _ =>
        if extent = .line then unexpected none
        pushBack
        return done

/-- **Reads a list of commands.** -/
def list (extent : Extent) : Parse Command := do listRest extent (← read).fuel false .nothing

end Parse

/-- **Reads lists of commands** that are nested up to some depth. -/
def listWithin (fuel : Nat) : Nat → Extent → EStateM Mistake Reader Command
  | 0, _ => do throw ⟨(← get).line, "end of file unexpected"⟩
  | depth + 1, extent => (Parse.list extent).run ⟨fuel, listWithin fuel depth⟩

namespace Reader

/-- The number of steps that reading a list of commands can take, and the depth to which
they can be nested. -/
def stepLimit : Nat := 1000000000000

/-- **Reads the next list of commands of a script**; nothing at the end of it. -/
def command (r : Reader) : Except Mistake (Option Command) × Reader :=
  match listWithin stepLimit stepLimit .line { r with again := false, awaited := [] } with
  | .error mistake r => (.error mistake, r)
  | .ok .nothing r => (.ok (if r.last = .endOfFile then none else some .nothing), r)
  | .ok c r => (.ok (some c), r)

/-- **Reads a text as if it stood between quotation marks**, up to its end. -/
def textWord (r : Reader) : Except Mistake (Word Command) × Reader :=
  let layer : Layer := { setting := .double, doubled := true }
  let draft : Draft := { layer, outer := true, document := some ⟨0, ['\x00'], false, false⟩ }
  match (Parse.pieces stepLimit draft).run ⟨stepLimit, listWithin stepLimit stepLimit⟩ r with
  | .error mistake r => (.error mistake, r)
  | .ok d r =>
    match d.fault? with
    | some text => (.error ⟨r.line, text⟩, r)
    | none => (.ok d.pieces.reverse, r)

end Reader

end SnapBlocks.Host.Shell
