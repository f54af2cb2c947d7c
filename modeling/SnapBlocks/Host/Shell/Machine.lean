import SnapBlocks.Host.Shell.Grammar
import SnapBlocks.Host.Shell.Field
import SnapBlocks.Host.Shell.Job
import SnapBlocks.Host.Shell.Tracked
import SnapBlocks.Host.Numeral

/-!
# The state of the shell

All that a command can change is in the **machine**: the variables and functions, the
parameters and options, the status of the last command, what the descriptors stand for
and the world outside.

A command that fails in certain ways ends the shell. This is a `Stop`, and what has
happened up to it stays. Leaving a loop or function early is no stop: it is noted in
the machine, and the commands that would come next are passed over.

Parts of a script are run in shells of their own, which are processes beside the one that
starts them. They begin as it is, and of what they change only the world is left.

Running commands is defined last of all, since everything else has a part in it. What
needs it finds it in the `Means`.
-/

namespace SnapBlocks.Host.Shell

/-- **A variable.** It may be marked before it has a value. -/
structure Variable where
  /-- The value, if it has one. -/
  value : Option Bytes
  /-- Whether programs get it. -/
  exported : Bool := false
  /-- Whether it can not be set. -/
  fixed : Bool := false

/-- **What is passed over** until a loop or a function has ended. -/
inductive Skip where
  /-- The rest of loops; the innermost ones end, and the last of them too if `leave` is set. -/
  | loops (leave : Bool) (count : Nat)
  /-- The rest of the function, or of the script. -/
  | function
deriving DecidableEq, Repr

/-- **Why the shell stops.** -/
inductive Stop where
  /-- A command failed in a way that ends the shell, unless something shields it. -/
  | error
  /-- The shell was told to stop. -/
  | exit
  /-- A command failed where no command may. -/
  | failed
  /-- A signal ends the shell. -/
  | killed (signal : Signal)
deriving DecidableEq, Repr

/-- What has to be put back when a function or command has ended. -/
inductive Saved where
  /-- A variable; it may not have been there. -/
  | variable (name : Bytes) (before : Option Variable)
  /-- The options. -/
  | flags (before : List Char)

/-- **The shell.** -/
structure Machine where
  /-- The name of the shell or its script. -/
  name : Bytes
  /-- The command that complaints come from, if it is one of the shell's own. -/
  speaker : Option Bytes := none
  /-- The variables. -/
  bindings : List (Bytes × Variable)
  /-- The functions. -/
  functions : List (Bytes × Command) := []
  /-- The parameters that have a number. -/
  positional : List Bytes := []
  /-- The options that are set. -/
  flags : List Char := []
  /-- The status of the last command. -/
  status : Nat := 0
  /-- The status of the last command inside of a word. -/
  outputStatus : Nat := 0
  /-- What is passed over, if anything is. -/
  skip : Option Skip := none
  /-- The number of functions around the command. One that an error has left is counted on. -/
  calls : Nat := 0
  /-- The number of loops around the command. -/
  loops : Nat := 0
  /-- The line of the command. -/
  line : Nat := 0
  /-- The line that the reader of the script has reached. -/
  reached : Nat := 1
  /-- The line that has been reached in the shell's own script, if that is no argument. -/
  reachedOwn : Nat := 1
  /-- Whether the end of the script has been met, but not been taken yet for its end. -/
  atEnd : Bool := false
  /-- What the descriptors stand for. -/
  descriptors : List (Nat × Stream)
  /-- What the functions that are running have to put back. -/
  saved : List (List Saved) := []
  /-- The here-documents, by number. -/
  documents : Array (Word Command) := #[]
  /-- The commands for signals and, under the number zero, for when the shell ends. -/
  traps : List (Signal × Bytes) := []
  /-- The status that such a command leaves as it was, while it runs. -/
  kept : Option Nat := none
  /-- The directory that the shell works in. -/
  place : Place
  /-- The path by which the shell has come there. -/
  directory : Bytes
  /-- The programs that have been found. -/
  tracks : Tracks := []
  /-- The number of the last command that was not waited for. -/
  background : Option Nat := none
  /-- The commands that were not waited for. -/
  jobs : Jobs := []
  /-- The number of the argument that `getopts` looks at next. -/
  optionIndex : Nat := 1
  /-- The place in an argument that `getopts` has reached, if it is inside of one. -/
  optionOffset : Option Nat := none
  /-- What the command of the shell that runs has printed, latest first. -/
  printed : List Bytes := []
  /-- What is handed on to programs, as it was handed to the shell or changed since. -/
  heritage : Heritage := {}
  /-- The number that the shell is known by. -/
  number : Nat := firstProcess
  /-- The number of the process, which is another one in a part that is run apart. -/
  process : Nat := firstProcess
  /-- The number of the process that started the shell. -/
  parent : Nat := firstParent
  /-- The short names for words, in the order of their definition. -/
  aliases : List (Bytes × Bytes) := []
  /-- The world outside. -/
  world : World

/-- **In what place a command stands.** -/
structure Standing where
  /-- Whether its failure is looked at. -/
  tested : Bool := false
  /-- Whether the process ends with it. -/
  last : Bool := false
deriving DecidableEq, Repr

/-- **What running a command needs** beside the machine. -/
structure Means where
  /-- No loop takes more rounds than this. -/
  fuel : Nat
  /-- Runs a command that stands in some place. -/
  command : Command → Standing → EStateM Stop Machine Unit
  /-- Does what is to be done when the shell ends. -/
  farewell : EStateM Stop Machine Unit
  /-- The shell as a program. -/
  shell : Program

/-- **Running something in the shell.** -/
abbrev Run := ReaderT Means (EStateM Stop Machine)

namespace Machine

/-- The value of a variable. -/
def value? (m : Machine) (name : Bytes) : Option Bytes := (m.bindings.lookup name).bind (·.value)

/-- Whether an option is set. -/
def has (m : Machine) (flag : Char) : Bool := m.flags.contains flag

/-- The characters that split fields. -/
def separators (m : Machine) : Bytes := (m.value? "IFS".toList).getD [' ', '\t', '\n']

/-- What a descriptor stands for. -/
def held (m : Machine) (number : Nat) : Option Stream := m.descriptors.lookup number

/-- What can be read from a descriptor, up to the end. -/
def ahead (m : Machine) (number : Nat) : Bytes :=
  match m.held number with
  | none => []
  | some stream => (m.world.ahead stream).toOption.getD []

/-- The machine after a number of bytes has been read from a descriptor. -/
def advance (m : Machine) (number count : Nat) : Machine :=
  match m.held number with
  | none => m
  | some stream => { m with world := m.world.advance stream count }

/-- The machine with a variable put in place. -/
def put (m : Machine) (name : Bytes) (v : Variable) : Machine :=
  { m with bindings :=
      if (m.bindings.lookup name).isSome then
        m.bindings.map fun (other, w) => (other, if other = name then v else w)
      else (name, v) :: m.bindings }

/-- The machine with a variable marked, which may not have a value yet. -/
def mark (m : Machine) (name : Bytes) (mark : Variable → Variable) : Machine :=
  m.put name (mark ((m.bindings.lookup name).getD { value := none }))

/-- The machine with a variable that programs get. -/
def handOn (m : Machine) (name : Bytes) : Machine :=
  m.mark name fun v => { v with exported := true }

/-- The machine without a variable. -/
def remove (m : Machine) (name : Bytes) : Machine :=
  { m with bindings := m.bindings.filter (·.1 ≠ name) }

/-- The variables that programs get. -/
def environment (m : Machine) : List (Bytes × Bytes) :=
  m.bindings.filterMap fun (name, v) => if v.exported then v.value.map (name, ·) else none

/-- The machine with a text written to a descriptor, if it can be. -/
def write? (m : Machine) (number : Nat) (text : Bytes) : Option Machine := do
  let stream ← m.held number
  let world ← (m.world.write stream text).toOption
  return { m with world }

/-- A complaint as it is printed. -/
def complaint (m : Machine) (text : Bytes) : Bytes :=
  let speaker := match m.speaker with
    | none => []
    | some name => name ++ ": ".toList
  m.name ++ ": ".toList ++ Bytes.ofNat m.line ++ ": ".toList ++ speaker ++ text ++ ['\n']

/-- The parts of a text between colons. -/
def splitPath (path : Bytes) : List Bytes :=
  path.foldr (fun c (parts : List Bytes) =>
    if c = ':' then [] :: parts
    else match parts with
      | [] => [[c]]
      | part :: rest => (c :: part) :: rest) [[]]

/-- The directories in which programs are looked for. -/
def searchPath (m : Machine) : List Bytes :=
  splitPath ((m.value? "PATH".toList).getD [])

/-- Whether commands are being passed over. -/
def skips (m : Machine) : Bool := m.skip.isSome

/-- The machine that ignores more signals for good. -/
def deafTo (m : Machine) (signals : List Signal) : Machine :=
  { m with heritage := { m.heritage with ignored := signals ++ m.heritage.ignored } }

/-- What programs are handed: signals that the shell ignores are ignored by them, too. -/
def legacy (m : Machine) : Heritage :=
  { m.heritage with
    ignored := (m.traps.filter fun (s, action) => s ≠ 0 && action.isEmpty).map (·.1)
      ++ m.heritage.ignored }

/-- The command for a signal, unless the signal is ignored. -/
def trapFor? (m : Machine) (s : Signal) : Option Bytes :=
  if m.heritage.ignored.contains s then none
  else (m.traps.lookup s).filter fun action => !action.isEmpty

/-- Whether the shell itself talks to somebody, and not a part of it that is run apart. -/
def talks (m : Machine) : Bool := m.has 'i' && m.process = m.number

/-- Whether a signal ends the shell. One that talks to somebody is not ended from the keyboard. -/
def dies (m : Machine) (s : Signal) : Bool :=
  s = Signal.kill
    || s.effect = .ends && (m.traps.lookup s).isNone && !m.heritage.ignored.contains s
      && !(m.talks && [Signal.quit, Signal.terminate].contains s)

end Machine

namespace Run

/-- Writes to a descriptor; nothing happens if that fails. -/
def tell (number : Nat) (text : Bytes) : Run Unit :=
  modify fun m => (m.write? number text).getD m

/-- **Prints.** What is printed is held back until the command has ended. -/
def say (text : Bytes) : Run Unit := modify fun m => { m with printed := text :: m.printed }

/-- Writes what has been printed; whether that succeeds. -/
def flush : Run Bool := do
  let m ← get
  let text := m.printed.reverse.flatten
  match if text.isEmpty then some m else m.write? 1 text with
  | some m => set { m with printed := [] }; return true
  | none => set { m with printed := [] }; return false

/-- **Complains.** -/
def complain (text : Bytes) : Run Unit := do tell 2 ((← get).complaint text)

/-- Sets the status. -/
def finish (status : Nat) : Run Unit := modify fun m => { m with status }

/-- **Stops with a complaint.** -/
def raise {α : Type} (text : Bytes) : Run α := do
  complain text
  finish 2
  throw .error

/-- The number that an argument is; it can not be negative. -/
def number (argument : Bytes) : Run Nat := do
  match Numeral.whole? 10 argument with
  | some (.ofNat n) =>
    if n < 2147483648 then return n else raise ("Illegal number: ".toList ++ argument)
  | _ => raise ("Illegal number: ".toList ++ argument)

/-- Does what comes with a change to a variable: `getopts` goes on where one says, and where
another one says programs are looked for anew. -/
def follow (name value : Bytes) : Run Unit := do
  if name = "OPTIND".toList then
    let n ← number value
    modify fun m => { m with optionIndex := max n 1, optionOffset := none }
  else if name = "PATH".toList then modify fun m => { m with tracks := [] }

/-- **Gives a variable a value.** What is set while all is to be exported is exported. -/
def assign (name value : Bytes) : Run Unit := do
  let m ← get
  if !(m.bindings.lookup name).any (·.fixed) then follow name value
  let m ← get
  match m.bindings.lookup name with
  | none => set (m.put name { value, exported := m.has 'a' })
  | some v =>
    if v.fixed then raise (name ++ ": is read only".toList)
    else set (m.put name { v with value, exported := v.exported || m.has 'a' })

/-- Gives a variable a value, if its name is one; it ends in front of an equals sign. -/
def assignChecked (name value : Bytes) : Run Unit := do
  let name := name.takeWhile (· ≠ '=')
  if isName name then assign name value else raise (name ++ ": bad variable name".toList)

/-- **Puts back what was saved** since a function or command began. -/
def restore : Run Unit := do
  let m ← get
  let (last, rest) := match m.saved with
    | [] => ([], [])
    | last :: rest => (last, rest)
  let m := last.foldl (fun (m : Machine) s => match s with
    | .variable name none => m.remove name
    | .variable name (some v) => m.put name v
    | .flags flags => { m with flags }) m
  set { m with saved := rest }
  last.forM fun
    | .variable name (some v) => follow name (v.value.getD [])
    | .variable name none => do
      if !isName name then raise (name ++ ": bad variable name".toList)
      else if name = "PATH".toList then follow name []
    | .flags _ => pure ()

/-- Puts back what was saved until no more than some functions and commands have to. Where the
shell stops nothing is put back, so that it can be seen by what is done when it ends. -/
def restoreTo (depth : Nat) : Run Unit := do
  (List.range ((← get).saved.length - depth)).forM fun _ => restore

/-- Begins to save what is changed. -/
def protect : Run Unit := modify fun m => { m with saved := [] :: m.saved }

/-- **Saves something**, to be put back later. -/
def save (s : Saved) : Run Unit :=
  modify fun m => match m.saved with
    | [] => m
    | last :: rest => { m with saved := (s :: last) :: rest }

/-- Runs a command that stands in some place. -/
def command (c : Command) (standing : Standing) : Run Unit := do (← read).command c standing

/-- Has a descriptor stand for something else, or for nothing. -/
def point (descriptor : Nat) (stream? : Option Stream) : Run Unit :=
  modify fun m =>
    let others := m.descriptors.filter (·.1 ≠ descriptor)
    { m with descriptors := match stream? with
        | some stream => (descriptor, stream) :: others
        | none => others }

/-- **Does something and puts back some descriptors**, unless they are kept; but always when
it stops. -/
def withDescriptors {α : Type} (keeps : Bool) (numbers : List Nat) (action : Run α) : Run α := do
  let before ← get
  let putBack : Run Unit := numbers.forM fun number => point number (before.held number)
  try
    let result ← action
    if !keeps then putBack
    return result
  catch stop =>
    putBack
    throw stop

/-! ## Shells of their own -/

/-- Does something, and says why it stopped if it did. -/
def attempt (action : Run Unit) : Run (Option Stop) := do
  try
    action
    return none
  catch stop => return some stop

/-- Gives the status back that was kept, where a stop asks for it. -/
def giveBack (stop : Option Stop) : Run Unit :=
  modify fun m => { m with
    status := if stop = some .exit then m.kept.getD m.status else m.status
    kept := none }

/-- Runs a job to its end, if it has not ended; how it ends. -/
def complete (job : Job) : Run Ending := do
  match job.state with
  | .done ending => return ending
  | .running rest =>
    let m ← get
    let (world, ending) := rest m.world
    let world := world.finish job.process
    let world := match m.trapFor? Signal.child with
      | some _ => (world.send? m.process Signal.child).getD world
      | none => world
    set { m with
      world
      jobs := m.jobs.change job.slot fun job => { job with state := .done ending } }
    return ending

/-- Runs all jobs to their ends, the first one first. -/
def completeAll : Run Unit := do
  (← get).jobs.reverse.forM fun job => do let _ ← complete job

/-- **Does something that the shell ends with**, and what is to be done at the end. -/
def toEnd (action : Run Unit) : Run Ending := do
  let stop ← attempt action
  let ending ← match stop with
    | some (.killed signal) => pure (Ending.killed signal)
    | stop =>
      giveBack stop
      match ← attempt (fun means => means.farewell) with
      | some (.killed signal) => pure (.killed signal)
      | _ => pure (.exited (← get).status)
  completeAll
  return ending

/-- Notes that a process has ended, which the shell may have asked for. -/
def noteEnd (process : Nat) : Run Unit :=
  modify fun m =>
    let world := m.world.finish process
    { m with world := match m.trapFor? Signal.child with
        | some _ => (world.send? m.process Signal.child).getD world
        | none => world }

/-- The machine as a part begins that is run apart. -/
def parted (m : Machine) (process : Nat) : Machine :=
  { m with
    process
    parent := m.process
    traps := m.traps.filter (·.2.isEmpty)
    reached := m.reachedOwn
    skip := none
    jobs := [] }

/-- **Does something in a shell of its own**, whose last act is what it was told to do when
it ends. Of what it changes, only the world and the status are left. -/
def apart (action : Run Unit) : Run Ending := do
  let before := { (← get) with jobs := (← get).jobs.claim }
  let (world, process) := before.world.begin
  set (parted { before with world } process)
  let ending ← toEnd action
  let after ← get
  set { before with world := after.world, status := ending.status }
  noteEnd process
  return ending

/-- Whether something is to be done at a signal, or when the shell ends. -/
def isTrapping (m : Machine) : Bool := m.traps.any fun (_, action) => !action.isEmpty

/-- Says by which signal a process was ended, unless it is a usual way to end. -/
def report (ending : Ending) : Run Unit := do
  match ending with
  | .killed signal =>
    if signal ≠ Signal.interrupt && signal ≠ Signal.pipe then
      tell 2 (signal.text.toList ++ ['\n'])
  | .exited _ => pure ()

/-- **Does something in a shell of its own and waits for its end.** -/
def enclosed (action : Run Unit) : Run Unit := do report (← apart action)

/-- Does something in a shell of its own, for which the shell itself is taken if it ends with
that and has nothing else to do. -/
def enclosedAt (standing : Standing) (action : Run Unit) : Run Unit := do
  let m ← get
  if standing.last && !isTrapping m then
    set { parted m m.process with jobs := m.jobs, parent := m.parent }
    action
  else enclosed action

/-- **Does something in a shell of its own that is not waited for.** Signals from the keyboard
are not for it, and it has no input. -/
def aside (parts : Nat) (action : Run Unit) : Run Unit := do
  let means ← read
  let m ← get
  let (world, process) := m.world.begin
  let jobs := m.jobs.claim
  let child := ((parted m process).deafTo [Signal.interrupt, Signal.quit])
  let rest (world : World) : World × Ending :=
    match (toEnd (do point 0 (some .null); action)).run means { child with world } with
    | .ok ending after => (after.world, ending)
    | .error _ after => (after.world, .exited after.status)
  let job : Job := { slot := m.jobs.freeSlot, process, parts, state := .running rest }
  set { m with world, jobs := job :: jobs, background := some process, status := 0 }

end Run

end SnapBlocks.Host.Shell
