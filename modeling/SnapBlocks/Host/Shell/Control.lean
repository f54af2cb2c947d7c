import SnapBlocks.Host.Shell.Option

/-!
# Signals, jobs and limits

The commands of the shell that have to do with processes: which signals are sent and what
is to be done at them, which commands have not been waited for, and what is handed on to
programs beside their variables.
-/

namespace SnapBlocks.Host.Shell

namespace Builtin

/-! ## Signals -/

/-- The complaint of `kill` when it is called wrongly. -/
def killUsage {α : Type} : Run α :=
  Run.raise <| "Usage: kill [-s sigspec | -signum | -sigspec] [pid | job]... or\n".toList
    ++ "kill -l [exitstatus]".toList

/-- **What is asked of `kill`.** -/
structure KillRequest where
  /-- The signal to send. -/
  signal : Option Signal
  /-- Whether the names of signals are asked for. -/
  lists : Bool
  /-- The arguments behind the options. -/
  targets : List Bytes

/-- Reads the arguments of `kill`: a hyphen and a signal, or options. -/
def killRequest (arguments : List Bytes) : Run KillRequest := do
  match arguments with
  | [] => killUsage
  | ('-' :: word) :: rest =>
    match Signal.ofText? 1 word with
    | some signal => return { signal, lists := false, targets := rest }
    | none =>
      let (given, targets) ← options "ls:" arguments
      given.foldlM (fun (request : KillRequest) (letter, argument) => do
        if letter = 'l' then return { request with lists := true }
        else match Signal.ofText? 1 argument with
          | some signal => return { request with signal }
          | none => Run.raise ("invalid signal number or name: ".toList ++ argument))
        { signal := none, lists := false, targets }
  | _ => return { signal := none, lists := false, targets := arguments }

/-- Prints the name of the signal that a number or a status stands for, or all names. -/
def signalNames : List Bytes → Run Unit
  | [] => do
    Run.say "0\n".toList
    (Signal.startingAt 1).forM fun s => Run.say ((Signal.name s).toList ++ ['\n'])
  | argument :: _ => do
    let n ← Run.number argument
    let s := if 128 < n then n - 128 else n
    if 0 < s && s ≤ Signal.last then Run.say ((Signal.name s).toList ++ ['\n'])
    else Run.raise ("invalid signal number or exit status: ".toList ++ argument)

/-- Sends a signal to the process that an argument names; whether there is one. A group of
processes, as which a job counts, is not found here. -/
def sendTo (s : Signal) (target : Bytes) : Run Bool := do
  let process? ← match target with
    | '%' :: _ =>
      match (← get).jobs.find (some target) with
      | .ok _ => pure none
      | .error complaint => Run.raise complaint
    | '-' :: digits => do
      let _ ← Run.number digits
      pure none
    | _ => some <$> Run.number target
  let m ← get
  match process?.bind fun process => m.world.send? process s with
  | some world =>
    modify fun m => { m with world }
    return true
  | none =>
    Run.complain "No such process\n".toList
    return false

/-- **Sends signals**, or lists their names. -/
def kill : Builtin := fun arguments => do
  let request ← killRequest arguments
  if request.lists then
    if request.signal.isSome then killUsage
    signalNames request.targets
    return 0
  else if request.targets.isEmpty then killUsage
  else
    let all ← request.targets.mapM (sendTo (request.signal.getD Signal.terminate))
    return if all.all id then 0 else 1

/-- Says what is to be done at a signal or at the end, or lists it. -/
def trap : Builtin := fun arguments => do
  let (_, arguments) ← options "" arguments
  match arguments with
  | [] =>
    let traps := (← get).traps
    (Signal.startingAt 0).forM fun signal => do
      if let some action := traps.lookup signal then
        Run.say ("trap -- ".toList ++ quoted action ++ ' ' :: (Signal.name signal).toList ++ ['\n'])
    return 0
  | first :: rest =>
    let numbered := first.all Char.isDigit && (Signal.ofText? 0 first).isSome
    let (action, targets) := if rest.isEmpty || numbered then (['-'], arguments) else (first, rest)
    for target in targets do
      match Signal.ofText? 0 target with
      | none =>
        Run.tell 2 ("trap: ".toList ++ target ++ ": bad trap\n".toList)
        return 1
      | some signal =>
        modify fun m =>
          let others := m.traps.filter (·.1 ≠ signal)
          { m with traps := if action = ['-'] then others else (signal, action) :: others }
    return 0

/-! ## Jobs -/

/-- The job that an argument stands for. -/
def jobOf (name? : Option Bytes) : Run Job := do
  match (← get).jobs.find name? with
  | .ok job => return job
  | .error complaint => Run.raise complaint

/-- Prints a job, of which nothing is known any more once its end has been told. -/
def sayJob (letter : Option Char) (job : Job) : Run Unit := do
  let m ← get
  if letter = some 'p' then Run.say (Bytes.ofNat (job.process + 1 - job.parts) ++ ['\n'])
  else
    Run.say (m.jobs.line (letter = some 'l') job)
    if job.state matches .done _ then
      modify fun m => { m with jobs := m.jobs.drop job.slot }

/-- Lists jobs. -/
def jobs : Builtin := fun arguments => do
  let (options, names) ← options "lp" arguments
  let letter := options.getLast?.map (·.1)
  if names.isEmpty then (← get).jobs.forM (sayJob letter)
  else names.forM fun name => do sayJob letter (← jobOf name)
  return 0

/-- Has a job run in front of the shell or behind it, which none was made for. -/
def resume : Builtin := fun arguments => do
  let (_, arguments) ← options "" arguments
  let _ ← jobOf arguments.head?
  let name := arguments.headD "(null)".toList
  Run.raise ("job ".toList ++ name ++ " not created under job control".toList)

/-- Notes that a job has been waited for. -/
def noteWaited (slot : Nat) : Run Unit :=
  modify fun m => { m with jobs := m.jobs.change slot fun job => { job with waited := true } }

/-- **Waits for a job.** A signal for which there is a command breaks the waiting off; then it
is the result. -/
def waitFor (job : Job) (tells : Bool) : Run (Except Signal Ending) := do
  let ran := job.state matches .running _
  let ending ← Run.complete job
  let m ← get
  let sent := (m.world.sentTo m.process).filter fun s => s ≠ Signal.child && (m.trapFor? s).isSome
  match if ran then sent.getLast? else none with
  | some signal => return .error signal
  | none =>
    if ran && tells then Run.report ending
    noteWaited job.slot
    return .ok ending

/-- Waits for all of some jobs, the first one first; the status. -/
def waitForAll : List Job → Run Nat
  | [] => return 0
  | job :: rest => do
    match ← waitFor job false with
    | .ok _ => waitForAll rest
    | .error signal => return 128 + signal

/-- Waits for the jobs that arguments name; the status of the last one, or else one that was
given. -/
def waitForEach : List Bytes → Nat → Run Nat
  | [], status => return status
  | argument :: rest, status => do
    let job? ← match argument with
      | '%' :: _ => some <$> jobOf argument
      | _ => do
        let process ← Run.number argument
        pure ((← get).jobs.find? (·.process = process))
    match job? with
    | none => waitForEach rest status
    | some job =>
      match ← waitFor job true with
      | .ok ending => waitForEach rest ending.status
      | .error signal => return 128 + signal

/-- **Waits for jobs**: for those named, or for all. -/
def wait : Builtin := fun arguments => do
  let (_, arguments) ← options "" arguments
  if arguments.isEmpty then waitForAll (← get).jobs.reverse else waitForEach arguments 127

/-- Prints the time that the shell and its commands have taken, which is none. -/
def times : Builtin := fun _ => do
  let line := "0m0.000000s 0m0.000000s\n".toList
  Run.say (line ++ line)
  return 0

/-! ## What is handed on -/

/-- The signs for what a mask leaves to one group. -/
def rights (bits : Nat) : Bytes :=
  (if bits / 4 % 2 = 0 then ['r'] else []) ++ (if bits / 2 % 2 = 0 then ['w'] else [])
    ++ (if bits % 2 = 0 then ['x'] else [])

/-- **The rights that a text gives**, in view of those that there are; nothing if it can not
be understood. `groups` are the groups that are named, and `given` are the rights so far. -/
def modeWithin (before : Nat) : Nat → Nat → Nat → Bytes → Option Nat
  | 0, _, given, _ => some given
  | fuel + 1, groups, given, text =>
    if text.isEmpty then some given
    else
      let named := text.takeWhile "augo".toList.contains
      let group : Char → Nat
        | 'a' => 73
        | 'u' => 64
        | 'g' => 8
        | _ => 1
      let groups := named.foldl (fun all c => all ||| group c) groups
      let groups := if groups = 0 then 73 else groups
      match text.drop named.length with
      | [] => some given
      | sign :: rest =>
        if !"=+-".toList.contains sign then none
        else
          let letters := rest.takeWhile "rwxugoXs".toList.contains
          let right : Char → Nat
            | 'r' => 4
            | 'w' => 2
            | 'x' => 1
            | 'u' => before / 64
            | 'g' => before / 8
            | 'o' => before
            | 'X' => if before &&& 73 = 0 then 0 else 1
            | _ => 0
          let named := (letters.foldl (fun all c => all ||| right c) 0) % 8 * groups
          let given := match sign with
            | '-' => given - (given &&& named)
            | '=' => named ||| (given - (given &&& groups * 7))
            | _ => given ||| named
          match rest.drop letters.length with
          | ',' :: rest => modeWithin before fuel 0 given rest
          | rest =>
            if rest.all fun c => !"=+-".toList.contains c then
              if rest.isEmpty then some given else none
            else modeWithin before fuel groups given rest

/-- Prints or sets the bits that new files do not get. -/
def umask : Builtin := fun arguments => do
  let (options, arguments) ← options "S" arguments
  let mask := (← get).heritage.mask
  let setMask (mask : Nat) : Run Unit :=
    modify fun m => { m with heritage := { m.heritage with mask } }
  match arguments with
  | [] =>
    let digits := Nat.toDigits 8 mask
    Run.say <|
      if options.isEmpty then List.replicate (4 - digits.length) '0' ++ digits ++ ['\n']
      else "u=".toList ++ rights (mask / 64) ++ ",g=".toList ++ rights (mask / 8) ++ ",o=".toList
        ++ rights mask ++ ['\n']
  | argument :: _ =>
    if argument.head?.any Char.isDigit then
      if argument.all (Numeral.isDigit 8) then setMask (Numeral.value 8 argument % 512)
      else Run.raise ("Illegal number: ".toList ++ argument)
    else
      let before := 511 - mask
      match modeWithin before (argument.length + 1) 0 before argument with
      | some rights => setMask (511 - rights)
      | none => Run.raise ("Illegal mode: ".toList ++ argument)
  return 0

/-- The greatest number that a limit is written with; it stands for there being none. -/
def noLimit : Nat := Numeral.modulus - 1

/-- Prints a limit. -/
def sayLimit (hard : Bool) (resource : Resource) (limit : Limit) : Run Unit :=
  Run.say <| match if hard then limit.hard else limit.soft with
    | none => "unlimited\n".toList
    | some n => Bytes.ofInt (Numeral.wrap (n / resource.unit)) ++ ['\n']

/-- The limit that an argument says. -/
def limitOf (resource : Resource) (argument : Bytes) : Run Bound := do
  if argument = "unlimited".toList then return none
  else if argument.all Char.isDigit then
    let n := Numeral.value 10 argument % Numeral.modulus * resource.unit % Numeral.modulus
    return if n = noLimit then none else some n
  else Run.raise "bad number".toList

/-- **Prints or sets limits.** -/
def ulimit : Builtin := fun arguments => do
  let (options, arguments) ← options "HSatfdscmlpnvwr" arguments
  let letters := options.map (·.1)
  let which := (letters.filter fun c => c = 'H' || c = 'S').getLast?
  let resource := ((letters.filterMap Resource.ofLetter?).getLast?).getD ⟨'f', "", 512⟩
  let limits := (← get).heritage.limits
  let all := letters.contains 'a'
  if !arguments.isEmpty && (all || 1 < arguments.length) then Run.raise "too many arguments".toList
  match arguments with
  | argument :: _ =>
    let bound ← limitOf resource argument
    let old := limits.get resource.letter
    let new : Limit := {
      soft := if which = some 'H' then old.soft else bound
      hard := if which = some 'S' then old.hard else bound }
    match limits.set resource.letter new with
    | .ok limits => modify fun m => { m with heritage := { m.heritage with limits } }
    | .error why => Run.raise ("error setting limit (".toList ++ why.toList ++ [')'])
  | [] =>
    if all then
      Resource.all.forM fun resource => do
        let title := resource.title.toList
        Run.say (title ++ List.replicate (max 1 (21 - title.length)) ' ')
        sayLimit (which = some 'H') resource (limits.get resource.letter)
    else sayLimit (which = some 'H') resource (limits.get resource.letter)
  return 0

end Builtin

end SnapBlocks.Host.Shell
