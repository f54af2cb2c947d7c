import SnapBlocks.Host.Shell.Run

/-!
# The shell as a program

The arguments of the shell set options, say where the script is, and become the
parameters. The script is an argument, a file or the input. From the input it is read
in blocks, and what is left between the last block and the end is for its commands.
-/

namespace SnapBlocks.Host.Shell

/-- **Where the script is.** -/
structure Setup where
  /-- Whether the script is an argument. -/
  isArgument : Bool := false
  /-- The arguments that are left. -/
  rest : List Bytes
  /-- Whether jobs are to be controlled, if an argument says so or not. -/
  control : Option Bool := none

namespace Run

/-- Reads the letters of an argument of the shell. As long as it does so, all settings count
as made. -/
def setupLetters (on : Bool) : List Char → Setup → Run Setup
  | [], s => return s
  | 'c' :: more, s => setupLetters on more { s with isArgument := true }
  | 'l' :: more, s => setupLetters on more s
  | 'm' :: more, s => setupLetters on more { s with control := some on }
  | 'o' :: more, s => do
    let s' := { s with rest := s.rest.tail }
    if s.rest.head? = some "monitor".toList then setupLetters on more { s' with control := some on }
    else
      Builtin.setNamed on (fun _ => true) s.rest.head?
      let _ ← flush
      setupLetters on more s'
  | c :: more, s => do
    Builtin.setLetter on c
    setupLetters on more s

/-- Reads the options of the shell, in no more than `fuel` arguments. -/
def setup : Nat → Setup → Run Setup
  | 0, s => return s
  | fuel + 1, s => do
    match s.rest with
    | ['-'] :: rest | ['-', '-'] :: rest => return { s with rest }
    | ('-' :: letters) :: rest => setup fuel (← setupLetters true letters { s with rest })
    | ('+' :: letters) :: rest => setup fuel (← setupLetters false letters { s with rest })
    | _ => return s

/-- Makes settings that go together: a shell that talks to somebody controls jobs, if nothing
else is said. -/
def settle (s : Setup) : Run Unit := do
  if s.control.getD ((← get).has 'i') then Builtin.refuseControl

/-- Opens the file that the script is in. -/
def openScript (path : Bytes) : Run Stream := do
  let m ← get
  match m.world.openFile m.held m.place .read path with
  | .error refusal => refuse path refusal
  | .ok (stream, world) =>
    set { m with world, name := path }
    return stream

/-- Runs the script that is an argument, and goes on with the input if that is asked for, or if
an error does not end the shell. -/
def argumentScript (text : Bytes) : Run Unit := do
  let goesOn := (← get).has 's'
  match ← attempt (script text { last := !goesOn }) with
  | none => if goesOn && !(← get).skips then inputScript
  | some stop =>
    if stop = .error && (← get).has 'i' then
      recover
      inputScript
    else throw stop

/-- **Does what the arguments of the shell say.** -/
def main (arguments : List Bytes) : Run Unit := do
  let s ← setup (arguments.length + 1) { rest := arguments }
  match s.isArgument, s.rest with
  | true, [] => raise "-c requires an argument".toList
  | true, text :: rest =>
    modify fun m => { m with name := rest.headD m.name, positional := rest.tail }
    settle s
    argumentScript text
  | false, [] =>
    modify fun m => { m with flags := if m.has 's' then m.flags else 's' :: m.flags }
    settle s
    inputScript
  | false, path :: rest =>
    if (← get).has 's' then
      modify fun m => { m with positional := path :: rest }
      settle s
      inputScript
    else
      modify fun m => { m with positional := rest }
      let stream ← openScript path
      settle s
      if let .ok (text, world) := (← get).world.readAll stream then
        modify fun m => { m with world }
        fileText .file text

end Run

/-- The path by which the shell has come to its directory: the one that it is handed, if it
leads there. -/
def startingDirectory (c : Call) (w : World) : Bytes :=
  match c.environment.lookup "PWD".toList with
  | some path =>
    if path.head? = some '/' && (w.files.locate c.place path).toOption = some c.place then path
    else c.place.path
  | none => c.place.path

/-- The variables that every shell starts with. -/
def startingVariables (c : Call) (w : World) : List (Bytes × Bytes) :=
  [("IFS".toList, " \t\n".toList), ("OPTIND".toList, ['1']),
    ("PPID".toList, Bytes.ofNat c.parent), ("PS1".toList, "# ".toList),
    ("PS2".toList, "> ".toList), ("PS4".toList, "+ ".toList),
    ("PWD".toList, startingDirectory c w)]

/-- **The shell before its script.** -/
def Machine.start (c : Call) (w : World) : Machine :=
  let own := startingVariables c w
  let path := "PATH".toList
  let given := c.environment.filter fun (name, _) => isName name && (own.lookup name).isNone
  { name := c.name
    bindings := own.map (fun (name, value) =>
        (name, { value := value, exported := name = "PWD".toList : Variable }))
      ++ given.map (fun (name, value) => (name, { value := value, exported := true }))
      ++ if (given.lookup path).isSome then []
        else [(path, { value := Bytes.join [':'] Files.searchPath })]
    descriptors := c.descriptors
    place := c.place
    directory := startingDirectory c w
    heritage := c.heritage
    number := c.process
    process := c.process
    parent := c.parent
    world := w }

/-- The depth to which commands can be nested. -/
def commandDepth : Nat := 1000000

/-- **The shell**, which starts others inside of itself up to some depth. -/
def program : Nat → Program
  | 0 => fun _ w => (w, .exited 126)
  | depth + 1 => fun c w =>
    let means := meansWithin (program depth) commandDepth
    match (Run.toEnd (Run.main c.arguments)).run means (.start c w) with
    | .ok ending m => (m.world, ending)
    | .error _ m => (m.world, .exited m.status)

end SnapBlocks.Host.Shell
