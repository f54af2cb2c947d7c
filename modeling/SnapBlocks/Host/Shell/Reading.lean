import SnapBlocks.Host.Shell.Draft

/-!
# Reading tokens

Here the reader goes from characters to tokens. Words may hold commands, which are
read by the way that the scope gives; so this module knows nothing of how commands
are made up.

A text between backquotes is taken as a whole, with the backslashes resolved that
were needed to write it there, and then read as a script of its own, whose lines
count from one.
-/

namespace SnapBlocks.Host.Shell

namespace Parse

/-! ## Parameters -/

/-- Reads characters as long as they fit. The first one has been read; what follows
the last is the result beside them. -/
def span (fits : Char → Bool) : Nat → List Char → Option Char → Parse (Bytes × Option Char)
  | 0, taken, c => return (taken.reverse, c)
  | fuel + 1, taken, c =>
    match c with
    | none => return (taken.reverse, none)
    | some c =>
      if fits c then do span fits fuel (c :: taken) (← nextJoined)
      else return (taken.reverse, some c)

/-- Whether a character is the name of a parameter of its own. -/
def isSpecial (c : Char) : Bool := "#?$!-*@".toList.contains c || c.isDigit

/-- **The beginning of a parameter between braces**: its name, whether its length is
asked for, and the character behind. There may be no name that can be understood. -/
structure Header where
  /-- The name, if there is one. -/
  name : Option Bytes
  /-- Whether the length is asked for. -/
  length : Bool
  /-- The character behind. -/
  behind : Option Char

/-- Reads a name or a number that begins with a character. -/
def headerName (length : Bool) (c : Char) : Parse Header := do
  let fuel := (← read).fuel
  let (name, behind) ← span (if c.isDigit then Char.isDigit else inName) fuel [] (some c)
  return ⟨some name, length, behind⟩

/-- **Reads the beginning of a parameter** behind a brace. A number sign asks for the
length of what follows, unless it is itself the parameter. -/
def header : Parse Header := do
  match ← nextJoined with
  | none => return ⟨none, false, none⟩
  | some c =>
    if inName c then headerName false c
    else if c = '\x7d' then return ⟨none, false, some c⟩
    else if c = '#' then
      match ← nextJoined with
      | none => return ⟨some ['#'], false, none⟩
      | some d =>
        if inName d then headerName true d
        else
          let e ← nextJoined
          if d = '\x7d' || e ≠ some '\x7d' then
            back e
            return ⟨some ['#'], false, some d⟩
          else if isSpecial d then return ⟨some [d], true, e⟩
          else return ⟨none, false, e⟩
    else
      let behind ← nextJoined
      return ⟨if isSpecial c then some [c] else none, false, behind⟩

/-- The treatment that a character asks for. -/
def treatment? : Char → Option Treatment
  | '\x7d' => some .plain
  | '-' => some .orElse
  | '+' => some .instead
  | '?' => some .orFail
  | '=' => some .orAssign
  | _ => none

/-- **Reads the treatment** behind the name of a parameter between braces, and whether
it counts an empty value as none. -/
def treatment (h : Header) : Parse (Treatment × Bool) := do
  match h.name, h.length, h.behind with
  | none, _, c => back c; return (.malformed, false)
  | _, true, c => back c; return (if c = some '\x7d' then .length else .malformed, false)
  | _, _, some '%' => return (.cutEnd (← takes '%'), false)
  | _, _, some '#' => return (.cutStart (← takes '#'), false)
  | _, _, some ':' =>
    return (((← nextJoined).bind treatment?).getD .malformed, true)
  | _, _, c => return ((c.bind treatment?).getD .malformed, false)

/-- Whether a treatment is that of a pattern. -/
def isCut : Treatment → Bool
  | .cutEnd _ | .cutStart _ => true
  | _ => false

/-- **Opens the operand of a parameter.** -/
def openOperand (d : Draft) (h : Header) (t : Treatment) (emptyToo : Bool) : Draft :=
  let setting := if isCut t then .bare
    else if d.layer.setting = .arithmetic then .double
    else d.layer.setting
  let level := d.openLevel (.value d.quotes (h.name.getD []) t emptyToo)
  let d := if setting = d.layer.setting && !d.layer.marksInside then level
    else level.pushLayer { setting, ofOperand := true, doubled := setting ≠ .bare }
  d.change fun l => { l with
    braces := l.braces + 1
    doubledBraces := if l.doubled then l.doubledBraces + 1 else l.doubledBraces }

/-! ## Commands inside of words -/

/-- **Reads the command between parentheses** behind a dollar sign. Here-documents that
are awaited outside of it are still awaited behind it, and those inside end with it. -/
def parenthesised (d : Draft) : Parse Draft := do
  let awaited := (← get).awaited
  modify fun r => { r with awaited := [] }
  let command ← (← read).list .any
  modify fun r => { r with again := false }
  let r ← get
  if r.last ≠ .sign ")" then fail s!"{r.last.title} unexpected (expecting \")\")"
  set { r with
    awaited
    documents := r.awaited.foldl (fun all (a : Awaited) => all.setIfInBounds a.number [])
      r.documents }
  return d.push (.output d.quotes command)

/-- Collects the text up to a backquote. -/
def quotedText (doubled : Bool) : Nat → List Char → Parse Bytes
  | 0, taken => return taken.reverse
  | fuel + 1, taken => do
    match ← nextJoined with
    | none => fail "EOF in backquote substitution"
    | some '`' => return taken.reverse
    | some '\\' =>
      match ← next with
      | none => quotedText doubled fuel ('\\' :: taken)
      | some c =>
        if c = '\\' || c = '`' || c = '$' || doubled && c = '"' then
          quotedText doubled fuel (c :: taken)
        else quotedText doubled fuel (c :: '\\' :: taken)
    | some '\n' => countLine; quotedText doubled fuel ('\n' :: taken)
    | some c => quotedText doubled fuel (c :: taken)

/-- **Reads the command between backquotes.** What follows the list of commands up to
the second backquote is not looked at. -/
def backquoted (d : Draft) : Parse Draft := do
  let text ← quotedText d.layer.doubled (← read).fuel []
  let outside ← get
  let inside : Reader := {
    rest := text
    supply := []
    last := outside.last
    again := outside.again
    word := outside.word
    documents := outside.documents
    shorts := outside.shorts }
  match (← read).list .any inside with
  | .error mistake inside =>
    set { outside with documents := inside.documents }
    throw mistake
  | .ok command inside =>
    set { outside with documents := inside.documents, again := false }
    return d.push (.output d.quotes command)

/-! ## Words -/

/-- **Reads what a dollar sign begins**; where it begins nothing it stands for itself. -/
def dollar (d : Draft) : Parse Draft := do
  match ← nextJoined with
  | none => return d.put '$' false
  | some c =>
    if d.ofEnding then back c; return d.put '$' false
    else if c = '(' then
      if ← takes '(' then
        let level := d.openLevel (.number d.quotes)
        return level.pushLayer { setting := .arithmetic, doubled := true }
      else parenthesised d
    else if c = '\x7b' then
      let h ← header
      let (t, emptyToo) ← treatment h
      if t = .plain && !emptyToo then
        return d.push (.value d.quotes (h.name.getD []) .plain false [])
      else return openOperand d h t emptyToo
    else if beginsName c then
      let (name, behind) ← span inName (← read).fuel [] c
      back behind
      return d.push (.value d.quotes name .plain false [])
    else if isSpecial c then return d.push (.value d.quotes [c] .plain false [])
    else back c; return d.put '$' false

/-- Reads the rest of a line and says whether it is the one that ends a here-document;
if it is not, the line is still to be read. -/
def endsDocument : Bytes → List Char → Parse Bool
  | [], taken => do
    match ← next with
    | none | some '\n' => countLine; return true
    | some c => backAll (c :: taken); return false
  | e :: ending, taken => do
    match ← next with
    | none => backAll taken; return false
    | some c =>
      if c = e then endsDocument ending (c :: taken)
      else backAll (c :: taken); return false

/-- Passes over tabs, of which one may have been read; the character behind them. -/
def skipTabs : Nat → Option Char → Parse (Option Char)
  | fuel + 1, some '\t' => do skipTabs fuel (← next)
  | _, c => return c

/-- Whether a draft ends in front of a line, because it ends the here-document; if it
does not, the character that the line begins with. -/
def atEnding (d : Draft) (c : Option Char) : Parse (Bool × Option Char) := do
  match d.document, d.fresh with
  | some a, true =>
    let c ← if a.tabs then skipTabs (← read).fuel c else pure c
    back c
    if ← endsDocument a.ending [] then return (true, none)
    else return (false, ← next)
  | _, _ => return (false, c)

/-- **Reads the pieces of a word** up to what ends it. -/
def pieces : Nat → Draft → Parse Draft
  | 0, d => return d
  | fuel + 1, d => do
    let c ← if d.layer.setting = .single then next else nextJoined
    let (ended, c?) ← atEnding d c
    if ended then return d
    let d := { d with fresh := false }
    match c? with
    | none => return d
    | some c =>
      match d.layer.setting.role c with
      | .ordinary => pieces fuel (d.put c false)
      | .newline =>
        if d.layer.setting = .bare && d.layer.braces = 0 then back c; return d
        else
          countLine
          pieces fuel { d.put c false with fresh := true }
      | .backslash =>
        match ← next with
        | none => pieces fuel (d.put '\\' true)
        | some c => pieces fuel (d.escape c)
      | .openMark .single =>
        pieces fuel (d.change fun l => { l with setting := .single }).mark
      | .openMark setting =>
        pieces fuel (d.change fun l => { l with setting, doubled := true }).doubleMark
      | .closeMark => pieces fuel (d.closeMark c)
      | .dollar => pieces fuel (← dollar d)
      | .backquote =>
        if d.ofEnding then pieces fuel (d.put c false) else pieces fuel (← backquoted d)
      | .closeBrace => pieces fuel d.closeBrace
      | .openParen =>
        pieces fuel ((d.put c false).change fun l => { l with parens := l.parens + 1 })
      | .closeParen =>
        if d.layer.parens ≠ 0 then
          pieces fuel ((d.put c false).change fun l => { l with parens := l.parens - 1 })
        else if ← takes ')' then pieces fuel d.popLayer.closeLevel
        else pieces fuel (d.put c false)
      | .ending => if d.layer.braces = 0 then back c; return d else pieces fuel (d.put c false)

/-- Reads the rest of a redirection that begins with a character. -/
def operator (d : Draft) (c : Char) : Parse Operator := do
  if c = '>' then
    let descriptor := (d.descriptor? 1).getD 1
    match ← nextJoined with
    | some '>' => return .target descriptor .append
    | some '|' => return .target descriptor .overwrite
    | some '&' => return .target descriptor .copy
    | c => back c; return .target descriptor .write
  else
    let descriptor := (d.descriptor? 0).getD 0
    match ← nextJoined with
    | some '<' => return .document descriptor (← takes '-')
    | some '&' => return .target descriptor .copy
    | some '>' => return .target descriptor .update
    | c => back c; return .target descriptor .read

/-- **Reads a word**, or the redirection that it turns out to be. -/
def wordToken (ofEnding : Bool) : Parse Token := do
  let d ← pieces (← read).fuel { layer := { setting := .bare }, ofEnding }
  if let some text := d.fault? then fail text
  if let some c := (← get).rest.head? then
    if (c = '<' || c = '>') && (d.descriptor? 0).isSome then
      let _ ← next
      let operator ← operator d c
      modify fun r => { r with operator }
      return .redirection
  modify fun r => { r with word := d.pieces.reverse, quoted := d.quoted }
  return .word

/-- **Reads a here-document.** -/
def document (a : Awaited) : Parse Unit := do
  let layer : Layer := if a.verbatim then { setting := .single }
    else { setting := .double, doubled := true }
  let d ← pieces (← read).fuel { layer, outer := true, document := a }
  if let some text := d.fault? then fail text
  modify fun r => { r with documents := r.documents.setIfInBounds a.number d.pieces.reverse }

/-- **Reads the here-documents that are awaited.** -/
def documents : Parse Unit := do
  let awaited := (← get).awaited
  modify fun r => { r with awaited := [] }
  awaited.forM document

/-! ## Tokens -/

/-- Reads a token, keywords apart. -/
def plainToken (ofEnding : Bool) : Nat → Parse Token
  | 0 => return .endOfFile
  | fuel + 1 => do
    match ← nextJoined with
    | none => return .endOfFile
    | some ' ' | some '\t' => plainToken ofEnding fuel
    | some '#' => skipLine (← read).fuel; plainToken ofEnding fuel
    | some '\n' => countLine; return .newline
    | some '&' => return if ← takes '&' then .sign "&&" else .sign "&"
    | some '|' => return if ← takes '|' then .sign "||" else .sign "|"
    | some ';' => return if ← takes ';' then .sign ";;" else .sign ";"
    | some '(' => return .sign "("
    | some ')' => return .sign ")"
    | c => back c; wordToken ofEnding

/-- The last token once more if it was pushed back, or else the next one. -/
def tokenAgain (ofEnding : Bool) : Parse Token := do
  let r ← get
  if r.again then
    set { r with again := false }
    return r.last
  else found (← plainToken ofEnding (← read).fuel)

/-- Passes over the ends of lines in front of a token. -/
def pastNewlines (ofEnding : Bool) : Nat → Token → Parse Token
  | fuel + 1, .newline => do
    documents
    expect {}
    pastNewlines ofEnding fuel (← tokenAgain ofEnding)
  | _, t => return t

/-- Reads the next token behind the short names in front of it, at most `fuel` of them. -/
def tokenWithin (ofEnding : Bool) (e : Expectation) : Nat → Parse Token
  | 0 => return .endOfFile
  | fuel + 1 => do
    let t ← tokenAgain ofEnding
    let t ← if e.passesNewlines then pastNewlines ofEnding (← read).fuel t else pure t
    let r ← get
    let e := { e with seeksShort := e.seeksShort || r.expected.seeksShort }
    expect {}
    match if t = .word && !r.quoted then r.word.bare? else none with
    | none => return t
    | some text =>
      match if e.seeksKeyword then Token.ofKeyword? text else none with
      | some keyword => found keyword
      | none =>
        match if e.seeksShort then r.short? text else none with
        | some long =>
          modify fun r => r.insert text long
          tokenWithin ofEnding e fuel
        | none => return t

/-- **Reads the next token**, as the reader expects it. A word is a keyword only where
keywords are sought and nothing in it is quoted, and the same holds for short names. -/
def tokenWith (ofEnding : Bool) : Parse Token := do
  tokenWithin ofEnding (← get).expected (← read).fuel

/-- Reads the next token. -/
def token : Parse Token := tokenWith false

/-- Refuses the last token; another one may have been expected. -/
def unexpected {α : Type} (expected : Option Token) : Parse α := do
  let title := (← get).last.title
  match expected with
  | none => fail s!"{title} unexpected"
  | some t => fail s!"{title} unexpected (expecting {t.title})"

/-- Reads a token that has to be there. -/
def require (t : Token) : Parse Unit := do
  if (← token) ≠ t then unexpected (some t)

end Parse

end SnapBlocks.Host.Shell
