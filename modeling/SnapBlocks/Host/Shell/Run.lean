import SnapBlocks.Host.Shell.Lookup
import SnapBlocks.Host.Shell.Redirect
import SnapBlocks.Host.Shell.Script
import SnapBlocks.Host.Utilities

/-!
# Running commands

`Run.evaluate` runs one command, given a way to run the commands inside of it. Tied
together with itself, up to a depth that no script reaches, it is the shell.

A simple command is run in steps: its words are expanded, then its descriptors are
changed, then its variables set, and then it is looked up. A function goes before a
command of the shell, and that before a program. What is changed for the command alone
is put back, except for those special commands whose very purpose is to change it.

With the option `e` a command that fails ends the shell, unless its failure is looked
at: by a test, by what is joined to it, or by a negation.
-/

namespace SnapBlocks.Host.Shell

namespace Run

/-! ## Signals -/

/-- Does what is to be done at some signals, which leaves the status as it was. Where a function
or loop is left by it, the other signals are kept for later. -/
def heed (status : Nat) : List Signal → Run Unit
  | [] => pure ()
  | signal :: rest => do
    let m ← get
    if m.skips then
      set { m with world := { m.world with
        sent := (signal :: rest).map (m.process, ·) ++ m.world.sent } }
    else
      if let some action := m.trapFor? signal then
        script action {}
        modify fun m => if m.skip = some .function then m else { m with status }
      heed status rest

/-- **Looks for signals that have been sent to the shell.** One that nothing has been said of
may end it. -/
def attend : Run Unit := do
  let m ← get
  if !m.world.sent.isEmpty then
    let sent := m.world.sentTo m.process
    if !sent.isEmpty then
      set { m with world := m.world.noticed m.process }
      if let some signal := sent.find? m.dies then
        if m.talks && signal = Signal.interrupt then
          tell 2 ['\n']
          finish 130
          throw .error
        else throw (.killed signal)
      let status := m.kept.getD m.status
      modify fun m => { m with kept := some status }
      heed status ((Signal.startingAt 1).filter sent.contains)
      modify fun (after : Machine) => { after with kept := m.kept }

/-! ## Calling -/

/-- The number of functions that can call one another. -/
def callLimit : Nat := 1000

/-- **Calls a function.** -/
def callFunction (body : Command) (arguments : List Bytes) (tested : Bool) : Run Unit := do
  modify fun m => { m with calls := m.calls + 1 }
  let before ← get
  if callLimit < before.calls then
    raise ("Maximum function recursion depth (".toList ++ Bytes.ofNat callLimit
      ++ ") reached".toList)
  let leave : Run Unit := modify fun m => { m with
    positional := before.positional
    loops := before.loops
    optionIndex := before.optionIndex
    optionOffset := before.optionOffset
    skip := if m.skip = some .function then none else m.skip }
  set { before with positional := arguments, loops := 0, optionIndex := 1, optionOffset := none }
  try command body { tested } catch stop => leave; throw stop
  leave
  modify fun m => { m with calls := m.calls - 1 }

/-- **Calls a command of the shell.** Unless it is special, its errors are shielded. -/
def callBuiltin (name : Bytes) (special : Bool) (body : Run Nat) : Run Unit := do
  let outside := (← get).speaker
  let close : Run Unit := modify fun m => { m with speaker := outside }
  modify fun m => { m with speaker := some name }
  try
    finish (← body)
    if !(← flush) then
      complain (name ++ ": I/O error".toList)
      modify fun m => { m with status := if m.status % 2 = 0 then m.status + 1 else m.status }
    close
  catch stop =>
    let _ ← flush
    close
    if special || stop ≠ .error then throw stop

/-- The programs beside the shell. -/
def programs (shell : Program) : List (String × Program) :=
  [("sh", shell), ("dash", shell)] ++ Host.utilities

/-- **Has a process run a program** that has been found. -/
def launch (process parent : Nat) (path name : Bytes) (arguments : List Bytes) : Run Ending := do
  let m ← get
  let place := (m.world.files.locate m.place path).toOption.getD []
  let file := place.getLast?.getD []
  match (programs (← read).shell).find? fun (other, _) => other.toList = file with
  | none => return .exited 126
  | some (_, program) =>
    let call : Call := {
      name
      arguments
      environment := m.environment
      descriptors := m.descriptors
      place := m.place
      heritage := m.legacy
      process
      parent }
    let (world, ending) := program call m.world
    set { m with world }
    return ending

/-- Has a program take the place of the shell. -/
def giveWay (path name : Bytes) (arguments : List Bytes) : Run Unit := do
  let m ← get
  let ending ← launch m.process m.parent path name arguments
  modify fun m => { m with traps := [], kept := some ending.status }
  throw (match ending with
    | .exited _ => .exit
    | .killed signal => .killed signal)

/-- Starts a program that has been found, and waits for its end. -/
def start (path name : Bytes) (arguments : List Bytes) : Run Unit := do
  let m ← get
  let (world, process) := m.world.begin
  set { m with world, jobs := m.jobs.claim }
  let ending ← launch process m.process path name arguments
  finish ending.status
  noteEnd process
  report ending

/-- The status for a refusal to start a program. -/
def refusalStatus : SystemError → Nat
  | .missing | .notDirectory | .nameTooLong => 127
  | _ => 126

/-- **Calls a program**, which may be looked for where programs usually are, and takes the place
of a shell that ends with it and has nothing else to do. -/
def callProgram (standard last : Bool) (name : Bytes) (arguments : List Bytes) : Run Unit := do
  match ← findProgram standard name with
  | .ok path =>
    if last && !isTrapping (← get) then giveWay path name arguments else start path name arguments
  | .error refusal =>
    complain (startRefusal name refusal)
    finish (if name.contains '/' then refusalStatus refusal else 127)

/-! ## The commands that run others -/

/-- Runs its arguments as a script; the flag says that its failure is looked at. -/
def evalBuiltin (tested : Bool) : Builtin := fun arguments => do
  script (Bytes.join [' '] arguments) { tested }
  return (← get).status

/-- Runs a file as a script. -/
def sourceBuiltin : Builtin := fun arguments => do
  let (_, arguments) ← Builtin.options "" arguments
  match arguments with
  | [] => return 0
  | name :: _ =>
    let m ← get
    let path? := if name.contains '/' then some name
      else (m.searchPath.map (Files.under · name)).find? fun path =>
        match m.world.files.find m.place path with
        | .ok (.file _) | .ok .program => true
        | _ => false
    match path? with
    | none => raise (name ++ ": not found".toList)
    | some path =>
      match m.world.openFile m.held m.place .read path with
      | .error refusal => refuse path refusal
      | .ok (stream, world) =>
        set { m with world }
        match world.readAll stream with
        | .error _ => return 0
        | .ok (text, world) =>
          modify fun m => { m with world, speaker := some path }
          fileText .inside text
          modify fun m => { m with skip := if m.skip = some .function then none else m.skip }
          return (← get).status

/-- Has a program take the place of the shell. -/
def execBuiltin : Builtin := fun arguments => do
  match arguments with
  | [] => return 0
  | name :: rest =>
    let m ← get
    match m.world.files.search m.place m.searchPath name with
    | .ok path =>
      giveWay path name rest
      return 0
    | .error refusal =>
      complain (startRefusal name refusal)
      modify fun m => { m with kept := some (refusalStatus refusal) }
      throw .exit

/-- **The commands of the shell**; the flag says that their failure is looked at. -/
def builtins (tested : Bool) : List (String × Builtin) :=
  [("eval", evalBuiltin tested), (".", sourceBuiltin), ("exec", execBuiltin),
    ("command", Builtin.command), ("type", Builtin.type), ("hash", Builtin.hash)]
    ++ Builtin.simple

/-- The command of the shell with a name. -/
def builtin? (tested : Bool) (name : Bytes) : Option Builtin :=
  ((builtins tested).find? fun (other, _) => other.toList = name).map (·.2)

/-! ## Simple commands -/

/-- **What a command's words call.** -/
structure Target where
  /-- The words, the name first. -/
  words : List Bytes
  /-- Whether functions are passed over, and a special command is not special. -/
  plain : Bool := false
  /-- Whether programs are looked for where they usually are. -/
  standard : Bool := false

/-- Passes over the options of `command`; nothing if it is not to run what follows. -/
def behindOptions (t : Target) : List Bytes → Option Target
  | [] => none
  | ['-', '-'] :: rest => if rest.isEmpty then none else some { t with words := rest }
  | ('-' :: c :: more) :: rest =>
    if (c :: more).all (· = 'p') then behindOptions { t with standard := true } rest else none
  | rest => some { t with words := rest }

/-- **Finds what some words call**: what stands behind `command`, if that runs anything. -/
def target (functions : Bytes → Bool) : Nat → Target → Target
  | 0, t => t
  | fuel + 1, t =>
    match t.words with
    | name :: rest =>
      if name = "command".toList && (t.plain || !functions name) then
        match behindOptions { t with plain := true } rest with
        | some t => target functions fuel t
        | none => t
      else t
    | [] => t

/-- The commands whose arguments can be assignments. -/
def declares (name : Bytes) : Bool :=
  ["export", "readonly", "local", "alias"].any fun other => other.toList = name

/-- Whether some words call a command that declares variables. -/
def declaring (m : Machine) (words : List Bytes) : Bool :=
  let t := target (fun name => (m.functions.lookup name).isSome) words.length { words }
  match t.words with
  | name :: _ => declares name && (t.plain || (m.functions.lookup name).isNone)
  | [] => false

/-- **Expands the words of a command.** Behind a command that declares variables, a word that
looks like an assignment is not split. What each word gives is collected last first. -/
def expandWords : List (Word Command) → List (List Bytes) → Run (List Bytes)
  | [], done => return done.reverse.flatten
  | w :: rest, done => do
    match Word.assignment? w with
    | some (name, value) =>
      if declaring (← get) done.reverse.flatten then
        let text ← assignedText value
        expandWords rest ([name ++ '=' :: text] :: done)
      else expandWords rest ((← fieldsOf w) :: done)
    | none => expandWords rest ((← fieldsOf w) :: done)

/-- Sets variables for good. -/
def assignAll (exported : Bool) (assignments : List (Bytes × Word Command)) :
    Run (List (Bytes × Bytes)) :=
  assignments.mapM fun (name, w) => do
    let text ← assignedText w
    assign name text
    if exported then
      modify fun m =>
        m.put name { (m.bindings.lookup name).getD { value := text } with exported := true }
    return (name, text)

/-- Sets variables for one command, which gets them even if it is a program. -/
def assignForCommand (assignments : List (Bytes × Word Command)) : Run (List (Bytes × Bytes)) :=
  assignments.mapM fun (name, w) => do
    let text ← assignedText w
    let before := (← get).bindings.lookup name
    save (.variable name before)
    if before.any (·.fixed) then raise (name ++ ": is read only".toList)
    follow name text
    modify fun m => m.put name { value := text, exported := true }
    return (name, text)

/-- Prints a command before it is run, where the option `x` asks for it. -/
def trace (stream? : Option Stream) (assigned : List (Bytes × Bytes)) (words : List Bytes) :
    Run Unit := do
  let m ← get
  if m.has 'x' then
    let items := assigned.map (fun (name, text) => name ++ '=' :: text) ++ words
    set { m with flags := m.flags.filter (· ≠ 'x') }
    let front ← promptText "PS4"
    modify fun (after : Machine) => { after with flags := m.flags }
    let m ← get
    let text := front ++ Bytes.join [' '] items ++ ['\n']
    if let some stream := stream? then
      set { m with world := (m.world.write stream text).toOption.getD m.world }

/-- Calls what some words call. -/
def call (t : Target) (standing : Standing) : Run Unit := do
  let m ← get
  match t.words with
  | [] => pure ()
  | name :: arguments =>
    match if t.plain then none else m.functions.lookup name with
    | some body => callFunction body arguments standing.tested
    | none =>
      match builtin? standing.tested name with
      | some body => callBuiltin name (isSpecialName name && !t.plain) (body arguments)
      | none => callProgram t.standard standing.last name arguments

/-- **Runs a simple command.** -/
def simpleCommand (line : Nat) (assignments : List (Bytes × Word Command))
    (words : List (Word Command)) (redirections : List (Redirection Command))
    (standing : Standing) : Run Unit := do
  modify fun m => { m with line, outputStatus := 0 }
  let all ← expandWords words []
  let m ← get
  let t := target (fun name => (m.functions.lookup name).isSome) all.length { words := all }
  let name := t.words.headD []
  let isFunction := !t.plain && (m.functions.lookup name).isSome
  let special := isSpecialName name && !t.plain
  let lasting := t.words.isEmpty || special && !isFunction
  let changes ← redirections.mapM change
  let errors := (← get).held 2
  withDescriptors (!isFunction && name = "exec".toList) (changes.map Change.descriptor) do
    if !(← carryOutAll changes) then
      finish 2
      if special then throw .error
    else if lasting then
      let exported := name = "exec".toList && t.words.length > 1
      let assigned ← assignAll exported assignments
      trace errors assigned all
      if t.words.isEmpty then finish (← get).outputStatus else call t standing
    else
      let depth := (← get).saved.length
      protect
      let assigned ← assignForCommand assignments
      trace errors assigned all
      call t standing
      restoreTo depth

/-! ## Loops -/

/-- Looks at what is passed over at the end of a round: whether the loop ends. -/
def endRound : Run Bool := do
  let m ← get
  match m.skip with
  | none => return false
  | some .function => return true
  | some (.loops ends count) =>
    if count ≤ 1 then
      set { m with skip := none }
      return ends
    else
      set { m with skip := some (.loops ends (count - 1)) }
      return true

/-- Runs a loop for as long as its test comes out as it should. -/
def rounds (success : Bool) (test body : Command) (tested : Bool) : Nat → Nat → Run Nat
  | 0, status => return status
  | fuel + 1, status => do
    command test { tested := true }
    let m ← get
    if m.skips then
      if ← endRound then return if m.skip = some .function then m.status else status
      else rounds success test body tested fuel status
    else if (m.status = 0) ≠ success then return status
    else
      command body { tested }
      let status := (← get).status
      if ← endRound then return status
      else rounds success test body tested fuel status

/-- Runs a loop over texts. -/
def roundsOver (name : Bytes) (body : Command) (tested : Bool) : List Bytes → Nat → Run Nat
  | [], status => return status
  | text :: rest, _ => do
    assign name text
    command body { tested }
    let status := (← get).status
    if ← endRound then return status
    else roundsOver name body tested rest status

/-- Counts a loop around what is done. -/
def inLoop (body : Run Nat) : Run Unit := do
  modify fun m => { m with loops := m.loops + 1 }
  let status ← body
  modify fun m => { m with loops := m.loops - 1, status }

/-- Runs the first clause that a text matches. -/
def clauses (text : Bytes) (standing : Standing) : List (Clause Command) → Run Unit
  | [] => finish 0
  | clause :: rest => do
    let fits ← clause.patterns.foldlM (fun found w => do
      if found then return true else return (← patternOf w).matches? text) false
    if fits then
      match clause.body with
      | .nothing => finish 0
      | body => command body standing
    else clauses text standing rest

/-! ## Commands -/

/-- Looks up the program that a command calls, if its name is plain. -/
def lookAhead (c : Command) : Run Unit := do
  if let .simple _ _ (w :: _) _ := c then
    if let some name := Word.bare? w then
      let m ← get
      if isName name && (m.functions.lookup name).isNone && !Builtin.isBuiltin name then
        let _ ← findProgram false name

/-- Has commands run side by side, each of which reads what the one before it prints. -/
def pipeline (tested : Bool) : List Command → Run Unit
  | [] => pure ()
  | [c] => do enclosed (command c { tested, last := true })
  | c :: rest => do
    let before ← get
    let outside := before.descriptors
    let (world, sink) := before.world.addSink
    set { before with world }
    let ending ← apart do
      point 1 (some (.sink sink))
      command c { tested, last := true }
    let m ← get
    let (world, source) := m.world.addSource (m.world.written sink)
    set { m with
      world
      status := before.status
      descriptors := (0, source) :: outside.filter (·.1 ≠ 0) }
    pipeline tested rest
    modify fun m => { m with descriptors := outside }
    report ending

/-- The number of commands that run side by side in a command. -/
def width : Command → Nat
  | .pipeline commands => commands.length
  | _ => 1

/-- Runs a command. The result is whether it is one whose failure may end the shell. -/
def perform (c : Command) (standing : Standing) : Run Bool := do
  let tested := standing.tested
  match c with
  | .nothing => return false
  | .simple line assignments words redirections =>
    simpleCommand line assignments words redirections standing
    return true
  | .redirected line inside redirections =>
    modify fun m => { m with line }
    let changes ← redirections.mapM change
    withDescriptors false (changes.map Change.descriptor) do
      if ← carryOutAll changes then
        command inside { tested }
        return false
      else
        finish 2
        return true
  | .pipeline commands =>
    commands.forM lookAhead
    pipeline tested commands
    return true
  | .negated inside =>
    command inside { tested := true }
    modify fun m => if m.skips then m else { m with status := if m.status = 0 then 1 else 0 }
    return false
  | .joined joint first second =>
    command first { tested := tested || joint ≠ .always }
    let m ← get
    let goesOn := match joint with
      | .always => true
      | .onSuccess => m.status = 0
      | .onFailure => m.status ≠ 0
    if goesOn && !m.skips then command second standing
    return false
  | .background inside =>
    aside (width inside) (command inside { last := true })
    return false
  | .subshell line inside redirections =>
    modify fun m => { m with line }
    let changes ← redirections.mapM change
    enclosedAt standing do
      if ← carryOutAll changes then command inside { tested, last := true } else finish 2
    return true
  | .choice test yes no =>
    command test { tested := true }
    let m ← get
    if m.skips then pure ()
    else if m.status = 0 then command yes standing
    else match no with
      | .nothing => finish 0
      | no => command no standing
    return false
  | .loop success test body =>
    inLoop (rounds success test body tested (← read).fuel 0)
    return false
  | .each line name words body =>
    modify fun m => { m with line }
    let texts ← words.mapM fieldsOf
    inLoop (roundsOver name body tested texts.flatten 0)
    return false
  | .select line word clausesOf =>
    modify fun m => { m with line }
    clauses (← textOf word) standing clausesOf
    return false
  | .function _ name body =>
    modify fun m => { m with
      functions := (name, body) :: m.functions.filter (·.1 ≠ name)
      tracks := m.tracks.forget name
      status := 0 }
    return false

/-- **Runs a command**, with a look at signals before and behind it. A failure that nothing
looks at ends the shell where the option `e` asks for it. -/
def evaluate (c : Command) (standing : Standing) : Run Unit := do
  if !(← get).has 'n' then
    attend
    let checked ← perform c standing
    let m ← get
    attend
    if checked && !standing.tested && m.status ≠ 0 && m.has 'e' then throw .failed

end Run

/-- **What running needs**, with commands nested up to some depth. -/
def meansWithin (shell : Program) : Nat → Means
  | 0 => ⟨0, fun _ _ => throw .exit, pure (), shell⟩
  | depth + 1 =>
    { fuel := 1000000000000
      command := fun c standing m => (Run.evaluate c standing).run (meansWithin shell depth) m
      farewell := fun m => Run.farewell.run (meansWithin shell depth) m
      shell := shell }

end SnapBlocks.Host.Shell
