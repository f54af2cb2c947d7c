import SnapBlocks.Host.Shell.Expansion

/-!
# Scripts

A script is read a command at a time, and each command is run before the next one is
read, since it may change how that is understood. The script that is the input of the
shell shares it with the commands.
-/

namespace SnapBlocks.Host.Shell

namespace Run

/-- **Where a script comes from.** -/
inductive Origin where
  /-- It is the input of the shell, which its commands can change and read from, too. -/
  | input
  /-- It is the file that the shell runs. -/
  | file
  /-- It is part of another one, or an argument of the shell. -/
  | inside
deriving DecidableEq, Repr

/-- Notes where a script has been read up to, and shows what has been read where the
option `v` asks for it. -/
def reach (origin : Origin) (r : Reader) : Run Unit := do
  modify fun m => { m with
    documents := r.documents
    reached := r.line
    reachedOwn := if origin = .inside then m.reachedOwn else r.line }
  r.shown.reverse.forM (tell 2)

/-- Stops at a fault in a script. -/
def mistaken {α : Type} (mistake : Mistake) : Run α := do
  modify fun m => { m with line := mistake.line }
  raise ("Syntax error: ".toList ++ mistake.text.toList)

/-- The text that a variable gives, to be shown before a line is read or a command is run. It is
the variable's own where it can not be understood. A command inside of it takes the end of the
script for its own, if that has been met. -/
def promptText (name : String) : Run Bytes := do
  let m ← get
  let text := (m.value? name.toList).getD []
  let reader : Reader := {
    rest := text
    supply := []
    again := m.atEnd
    documents := m.documents
    shorts := m.aliases }
  let (found, reader) := reader.textWord
  set { m with documents := reader.documents, atEnd := reader.again }
  try
    match found with
    | .error mistake => mistaken mistake
    | .ok w => textOf w
  catch stop => if stop = .error then return text else throw stop

/-- What the shell says at the end of its script. If that is not to be its own end it asks to be
left by a command, but not forever. -/
def lastWords (prompt : Bytes) : Run Unit := do
  let m ← get
  let request := "\nUse \"exit\" to leave shell.\n".toList ++ prompt
  if m.has 'I' then tell 2 (List.replicate 50 request).flatten
  else if m.has 'i' then tell 2 ['\n']

/-- Makes ready for the next command after an error that has not ended the shell. -/
def recover : Run Unit := do
  restoreTo 0
  modify fun m => { m with skip := none, loops := 0 }

/-- Runs what is left of a script, command by command, until it ends or is left. The result
is whether any command has been run. A shell that talks to somebody asks for each command, and
does not end with an error, but what has been taken of the script is lost. -/
def scriptRest (origin : Origin) (standing : Standing) : Nat → Bool → Reader → Run Bool
  | 0, any, _ => return any
  | rounds + 1, any, r => do
    modify fun m => { m with atEnd := false }
    let talks := origin ≠ .inside && (← get).has 'i'
    let prompt ← if talks then promptText "PS1" else pure []
    let further ← if talks then promptText "PS2" else pure []
    tell 2 prompt
    let m ← get
    let r : Reader := { r with
      documents := m.documents
      shorts := m.aliases
      shows := m.has 'v'
      shown := []
      prompt := further
      goesOn := false
      supply := if origin = Origin.input then m.ahead 0 else r.supply
      taken := 0 }
    let (found, r) := r.command
    reach origin r
    if origin = Origin.input then modify fun (m : Machine) => m.advance 0 r.taken
    let atEnd := r.again && r.last = .endOfFile && found matches .ok (some _)
    modify fun m => { m with atEnd }
    let act : Run Unit := match found with
      | .error mistake => mistaken mistake
      | .ok none => if origin = Origin.inside then pure () else lastWords prompt
      | .ok (some .nothing) => pure ()
      | .ok (some c) => command c { standing with last := standing.last && atEnd }
    match ← (if origin = Origin.inside then do act; return none else attempt act) with
    | some stop =>
      if stop = .error && (← get).has 'i' then
        recover
        scriptRest origin standing rounds true
          { rest := [], supply := r.supply, line := r.line, documents := r.documents }
      else throw stop
    | none =>
      match found with
      | .ok none => return any
      | .ok (some .nothing) => scriptRest origin standing rounds any r
      | _ => if (← get).skips then return true else scriptRest origin standing rounds true r

/-- Runs what a reader has before it as a script. Its status is zero if there is no command
in it. -/
def scriptOf (origin : Origin) (standing : Standing) (r : Reader) : Run Unit := do
  let outside := (← get).reached
  let rounds := r.rest.length + r.supply.length + 1
  if !(← scriptRest origin standing rounds false r) then finish 0
  modify fun m => { m with reached := outside }

/-- **Runs a text as a script** that stands in some place. -/
def script (text : Bytes) (standing : Standing) : Run Unit :=
  scriptOf .inside standing { rest := text, supply := [] }

/-- **Runs the text of a file as a script.** -/
def fileText (origin : Origin) (text : Bytes) : Run Unit :=
  scriptOf origin {} { rest := [], supply := text }

/-- **Runs the script that is the input of the shell.** -/
def inputScript : Run Unit := do
  let _ ← scriptRest .input {} (← read).fuel false { rest := [], supply := [] }

/-- **Does what is to be done when the shell ends.** -/
def farewell : Run Unit := do
  let m ← get
  match m.traps.lookup 0 with
  | none => pure ()
  | some action =>
    set { m with traps := m.traps.filter (·.1 ≠ 0), skip := none, kept := some m.status }
    match ← attempt (script action {}) with
    | some (.killed signal) => throw (.killed signal)
    | none => giveBack (some .exit)
    | stop => giveBack stop

end Run

end SnapBlocks.Host.Shell
