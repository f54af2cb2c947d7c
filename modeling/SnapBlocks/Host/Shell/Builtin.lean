import SnapBlocks.Host.Shell.Condition
import SnapBlocks.Host.Shell.Control
import SnapBlocks.Host.Shell.Directory
import SnapBlocks.Host.Shell.Expansion
import SnapBlocks.Host.Shell.Format
import SnapBlocks.Host.Shell.Setting

/-!
# The shell's own commands

Most commands of the shell need nothing but their arguments and the machine. They are
here; what runs other commands comes later. A command gives its status. One that is
called wrongly raises an error, with its name in front of the complaint.
-/

namespace SnapBlocks.Host.Shell

namespace Builtin

/-! ## Printing and judging -/

/-- Prints its arguments. -/
def echo : Builtin := fun arguments => do
  Run.say (Shell.echo arguments)
  return 0

/-- Prints its arguments by a format. -/
def printf : Builtin := fun arguments => do
  let (_, arguments) ← options "" arguments
  match arguments with
  | [] => Run.raise "usage: printf format [arg ...]".toList
  | format :: rest =>
    let result := Format.print format rest
    result.complaints.forM Run.complain
    Run.say result.out
    if let some fault := result.fault then Run.raise fault
    return if result.complaints.isEmpty then 0 else 1

/-- What a letter says of what lies at a place. -/
def hasTrait (node : Node) : Char → Bool
  | 'e' | 'r' | 'w' | 'O' | 'G' => true
  | 'f' => (node matches .file _) || node = .program
  | 'd' => node = .directory
  | 'x' => node = .directory || node = .program
  | 's' => match node with
    | .file text => !text.isEmpty
    | .program | .directory => true
    | _ => false
  | 'c' => node = .null || node = .full || node = .terminal
  | 'p' => (node matches .descriptor _)
  | _ => false

/-- Judges its arguments as a condition. -/
def test : Builtin := fun arguments => do
  let m ← get
  let files := m.world.files
  let place? (path : Bytes) : Option Place := (files.locate m.place path).toOption
  let shared : List Place := [["tmp".toList], ["var".toList, "tmp".toList]]
  let file (letter : Char) (path : Bytes) : Bool :=
    if letter = 'k' then (place? path).any shared.contains
    else if letter = 'h' || letter = 'L' then
      match (files.locateName m.place path).toOption.bind files.node? with
      | some (.link _) | some (.descriptor _) => !Files.endsInSlash path
      | _ => false
    else ((place? path).bind files.node?).any (hasTrait · letter)
  let same (a b : Bytes) : Bool :=
    file 'e' a && file 'e' b && place? a = place? b
  match Condition.judge ⟨file, same⟩ arguments with
  | .ok truth => return if truth then 0 else 1
  | .error complaint => Run.raise complaint

/-- Judges its arguments as a condition; the last one has to begin with a closing bracket. -/
def bracket : Builtin := fun arguments => do
  if (arguments.getLast?.bind List.head?) = some ']' then test arguments.dropLast
  else Run.raise "missing ]".toList

/-! ## Leaving -/

/-- Ends the shell. -/
def exit : Builtin := fun arguments => do
  if let argument :: _ := arguments then
    let status ← Run.number argument
    modify fun m => { m with kept := some status }
  throw .exit

/-- Ends the function, or the script. -/
def leave : Builtin := fun arguments => do
  let status ← match arguments with
    | [] => pure (← get).status
    | argument :: _ => Run.number argument
  modify fun m => { m with skip := some .function }
  return status

/-- Ends loops or goes on with the next round of one. -/
def loop (ends : Bool) : Builtin := fun arguments => do
  let count ← match arguments with
    | [] => pure 1
    | argument :: _ =>
      let n ← Run.number argument
      if n = 0 then Run.raise ("Illegal number: ".toList ++ argument)
      pure n
  modify fun m =>
    if m.loops = 0 then m else { m with skip := some (.loops ends (min count m.loops)) }
  return 0

/-! ## Variables and parameters -/

/-- The variables as commands that set them, in the order of their names. -/
def listing (command : Bytes) (chosen : Variable → Bool) (all : Bool) : Run Unit := do
  let listed := (← get).bindings.filter fun (_, v) => chosen v && (all || v.value.isSome)
  let sorted := listed.mergeSort fun a b => Run.notAfter a.1 b.1
  let front := if command.isEmpty then [] else command ++ [' ']
  sorted.forM fun (name, v) => Run.say <|
    front ++ name ++ (match v.value with
      | none => []
      | some value => '=' :: quoted value) ++ ['\n']

/-- The name in front of an equals sign, and what stands behind it. -/
def split (argument : Bytes) : Bytes × Option Bytes :=
  let name := argument.takeWhile (· ≠ '=')
  (name, if name.length < argument.length then some (argument.drop (name.length + 1)) else none)

/-- Marks variables, and gives them values where there are some; or lists those marked. -/
def mark (command : String) (chosen : Variable → Bool) (mark : Variable → Variable) : Builtin :=
  fun arguments => do
    let (options, names) ← match arguments with
      | ('-' :: 'p' :: _) :: _ => pure ([('p', [])], [])
      | _ => options "p" arguments
    if names.isEmpty || !options.isEmpty then listing command.toList chosen true
    else
      names.forM fun argument => do
        let (name, value?) := split argument
        if !isName name then Run.raise (name ++ ": bad variable name".toList)
        if let some value := value? then Run.assign name value
        modify fun m => m.mark name mark
    return 0

/-- Hands variables to programs. -/
def exporting : Builtin := mark "export" (·.exported) fun v => { v with exported := true }

/-- Protects variables. -/
def protecting : Builtin := mark "readonly" (·.fixed) fun v => { v with fixed := true }

/-- Removes variables or functions. -/
def unset : Builtin := fun arguments => do
  let (options, names) ← options "vf" arguments
  let functions := (options.getLast?.map (·.1)) = some 'f'
  names.forM fun argument => do
    if functions then
      modify fun m => { m with functions := m.functions.filter (·.1 ≠ argument) }
    else
      let (name, _) := split argument
      if !isName name then Run.raise (name ++ ": bad variable name".toList)
      let m ← get
      if (m.bindings.lookup name).any (·.fixed) then Run.raise (name ++ ": is read only".toList)
      Run.follow name []
      modify (·.remove name)
  return 0

/-- Has variables put back when the function ends. -/
def localizing : Builtin := fun arguments => do
  if (← get).saved.isEmpty then Run.raise "not in a function".toList
  arguments.forM fun argument => do
    if argument = ['-'] then Run.save (.flags (← get).flags)
    else
      let (name, value?) := split argument
      if value?.isNone && !isName name then Run.raise (name ++ ": bad variable name".toList)
      Run.save (.variable name ((← get).bindings.lookup name))
      if let some value := value? then Run.assign name value
  return 0

/-- Drops parameters from the front. -/
def shift : Builtin := fun arguments => do
  let count ← match arguments with
    | [] => pure 1
    | argument :: _ => Run.number argument
  let m ← get
  if m.positional.length < count then Run.raise "can't shift that many".toList
  set { m with positional := m.positional.drop count, optionIndex := 1, optionOffset := none }
  return 0

/-- Sets the options of one argument; the arguments that are left. -/
def setLetters (on : Bool) : List Char → List Bytes → Run (List Bytes)
  | [], rest => return rest
  | 'o' :: more, rest => do
    setNamed on (← get).has rest.head?
    setLetters on more rest.tail
  | c :: more, rest => do
    setLetter on c
    setLetters on more rest

/-- Sets the options of no more than `fuel` arguments; what is left, if it is to become the
parameters. -/
def setOptions : Nat → List Bytes → Run (Option (List Bytes))
  | _ + 1, ['-'] :: rest => do
    modify fun m => { m with flags := m.flags.filter fun flag => flag ≠ 'x' && flag ≠ 'v' }
    return if rest.isEmpty then none else some rest
  | _ + 1, ['-', '-'] :: rest => return some rest
  | fuel + 1, ('-' :: letters) :: rest => do setOptions fuel (← setLetters true letters rest)
  | fuel + 1, ('+' :: letters) :: rest => do setOptions fuel (← setLetters false letters rest)
  | _, rest => return if rest.isEmpty then none else some rest

/-- Sets options and parameters, or lists the variables. -/
def setting : Builtin := fun arguments => do
  if arguments.isEmpty then listing [] (fun _ => true) false
  else if let some positional ← setOptions (arguments.length + 1) arguments then
    modify fun m => { m with positional, optionIndex := 1, optionOffset := none }
  return 0

/-! ## Reading -/

/-- **A line that has been read.** -/
structure Line where
  /-- Its parts. A character that was escaped does not split. -/
  parts : List Stretch
  /-- The number of bytes that were read. -/
  count : Nat
  /-- Whether it was ended. -/
  ended : Bool

/-- The parts of a line with another one, of which the cells are given last first. -/
def withPart (taken : List Cell) (parts : List Stretch) : List Stretch :=
  ⟨.everywhere, taken.reverse⟩ :: parts

/-- Reads a line from a text. `parts` and `taken` are what has been read so far, last first,
and `escaping` says that a backslash came last. -/
def line (raw : Bool) : Bool → Bytes → List Stretch → List Cell → Nat → Line
  | _, [], parts, taken, count => ⟨(withPart taken parts).reverse, count, false⟩
  | escaping, c :: rest, parts, taken, count =>
    if c = '\x00' then line raw escaping rest parts taken (count + 1)
    else if escaping then
      if c = '\n' then line raw false rest (withPart taken parts) [] (count + 1)
      else line raw false rest (⟨.never, [.char c true]⟩ :: withPart taken parts) [] (count + 1)
    else if c = '\\' && !raw then line raw true rest parts taken (count + 1)
    else if c = '\n' then ⟨(withPart taken parts).reverse, count + 1, true⟩
    else line raw false rest parts (.char c false :: taken) (count + 1)

/-- **Reads a line into variables.** -/
def read : Builtin := fun arguments => do
  let (options, names) ← options "p:r" arguments
  if names.isEmpty then Run.raise "arg count".toList
  let m ← get
  let line := line (options.any (·.1 = 'r')) false (m.ahead 0) [] [] 0
  modify (·.advance 0 line.count)
  let words := share m.separators names.length line.parts
  (names.zip (words ++ List.replicate names.length [])).forM fun (name, word) =>
    Run.assignChecked name word
  return if line.ended then 0 else 1

/-- The next option of some arguments, and where it leaves off. -/
structure NextOption where
  /-- The letter, or a sign of what is wrong. -/
  letter : Char
  /-- The argument of the option; without a value the variable is removed. -/
  argument : Option (Option Bytes)
  /-- A complaint. -/
  complaint : Bytes
  /-- The number of arguments passed. -/
  passed : Nat
  /-- The place in the last of these that has been reached. -/
  offset : Option Nat
  /-- Whether there are no more options. -/
  done : Bool

/-- **Finds the next option** behind a number of arguments and a place in the last of them. -/
def nextOption (letters : Bytes) (arguments : List Bytes) (passed : Nat) (offset : Option Nat) :
    NextOption :=
  let quiet := letters.head? = some ':'
  let inside := match offset with
    | some n => if passed = 0 then [] else (arguments[passed - 1]?.getD []).drop n
    | none => []
  let start : Option (Bytes × Nat × Nat) :=
    if !inside.isEmpty then some (inside, passed, (offset.getD 0))
    else match arguments[passed]? with
      | some ['-', '-'] => none
      | some ('-' :: c :: rest) => some (c :: rest, passed + 1, 1)
      | _ => none
  match start with
  | none =>
    let passesOver := inside.isEmpty && arguments[passed]? = some ['-', '-']
    ⟨'?', none, [], if passesOver then passed + 1 else passed, none, true⟩
  | some ([], passed, _) => ⟨'?', none, [], passed, none, true⟩
  | some (c :: rest, passed, start) =>
    let offset := some (start + 1)
    match option? (if quiet then letters.drop 1 else letters) c with
    | none =>
      if quiet then ⟨'?', some (some [c]), [], passed, offset, false⟩
      else ⟨'?', some none, "Illegal option -".toList ++ [c, '\n'], passed, offset, false⟩
    | some false => ⟨c, some (some []), [], passed, offset, false⟩
    | some true =>
      if !rest.isEmpty then ⟨c, some (some rest), [], passed, none, false⟩
      else match arguments[passed]? with
        | some argument => ⟨c, some (some argument), [], passed + 1, none, false⟩
        | none =>
          if quiet then ⟨':', some (some [c]), [], passed, offset, false⟩
          else ⟨'?', some none, "No arg for -".toList ++ c :: " option\n".toList, passed, offset,
            false⟩

/-- Reads the next option into a variable. -/
def getopts : Builtin := fun arguments => do
  match arguments with
  | letters :: name :: rest =>
    let m ← get
    let all := if rest.isEmpty then m.positional else rest
    let next :=
      if all.length + 1 < m.optionIndex then nextOption letters all 0 none
      else nextOption letters all (m.optionIndex - 1) m.optionOffset
    if !next.complaint.isEmpty then Run.tell 2 next.complaint
    match next.argument with
    | none => pure ()
    | some none => modify fun m => m.remove "OPTARG".toList
    | some (some text) => Run.assign "OPTARG".toList text
    Run.assign "OPTIND".toList (Bytes.ofNat (next.passed + 1))
    Run.assignChecked name [next.letter]
    modify fun m => { m with optionIndex := next.passed + 1, optionOffset := next.offset }
    return if next.done then 1 else 0
  | _ => Run.raise "Usage: getopts optstring var [arg...]".toList

/-! ## Short names -/

/-- Prints a short name with its text. -/
def sayShort (name text : Bytes) : Run Unit := Run.say (name ++ '=' :: quoted text ++ ['\n'])

/-- The table with a short name in it. -/
def putShort (table : List (Bytes × Bytes)) (name text : Bytes) : List (Bytes × Bytes) :=
  if table.any (·.1 = name) then
    table.map fun entry => if entry.1 = name then (name, text) else entry
  else table ++ [(name, text)]

/-- Sets short names, or lists them. -/
def shortNames : Builtin := fun arguments => do
  if arguments.isEmpty then
    let listed := (← get).aliases.mergeSort fun a b => Tracks.rank 39 a.1 ≤ Tracks.rank 39 b.1
    listed.forM fun (name, text) => sayShort name text
    return 0
  let mut status := 0
  for argument in arguments do
    let name := argument.take 1 ++ (argument.drop 1).takeWhile (· ≠ '=')
    if name.length < argument.length then
      let text := argument.drop (name.length + 1)
      modify fun m => { m with aliases := putShort m.aliases name text }
    else match (← get).aliases.lookup argument with
      | some text => sayShort argument text
      | none =>
        Run.tell 2 ("alias: ".toList ++ argument ++ " not found\n".toList)
        status := 1
  return status

/-- Removes short names. -/
def noShortNames : Builtin := fun arguments => do
  let (options, names) ← options "a" arguments
  if !options.isEmpty then
    modify fun m => { m with aliases := [] }
    return 0
  let mut status := 0
  for name in names do
    let m ← get
    if (m.aliases.lookup name).isSome then
      set { m with aliases := m.aliases.filter (·.1 ≠ name) }
    else
      Run.tell 2 ("unalias: ".toList ++ name ++ " not found\n".toList)
      status := 1
  return status

/-! ## All of them -/

/-- **The commands that need nothing but their arguments.** -/
def simple : List (String × Builtin) :=
  [(":", fun _ => return 0), ("true", fun _ => return 0), ("false", fun _ => return 1),
    ("echo", echo), ("printf", printf), ("test", test), ("[", bracket), ("exit", exit),
    ("return", leave), ("break", loop true), ("continue", loop false), ("export", exporting),
    ("readonly", protecting), ("unset", unset), ("local", localizing), ("shift", shift),
    ("set", setting), ("read", read), ("getopts", getopts), ("cd", cd), ("chdir", cd), ("pwd", pwd),
    ("umask", umask), ("ulimit", ulimit), ("kill", kill), ("wait", wait), ("trap", trap),
    ("times", times), ("jobs", jobs), ("fg", resume), ("bg", resume), ("alias", shortNames),
    ("unalias", noShortNames)]

/-- The names of the commands that run others or look for them. -/
def running : List String := ["eval", ".", "exec", "command", "type", "hash"]

/-- Whether a name is that of a command of the shell. -/
def isBuiltin (name : Bytes) : Bool :=
  simple.any (fun (other, _) => other.toList = name) || running.any fun other => other.toList = name

end Builtin

end SnapBlocks.Host.Shell
