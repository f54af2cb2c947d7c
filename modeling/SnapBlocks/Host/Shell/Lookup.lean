import SnapBlocks.Host.Shell.Builtin

/-!
# What names stand for

A name at the head of a command may be a word of the grammar, a short name, a function, a
command of the shell or a program. Programs are looked for in the directories of a
variable, and the shell keeps in mind where they are.
-/

namespace SnapBlocks.Host.Shell

namespace Run

/-- **Finds a program by its name.** A name with a slash is a path. What is found in the usual
directories, and not in those of the variable, is not kept in mind, nor is what a function hides. -/
def findProgram (standard : Bool) (name : Bytes) : Run (Except SystemError Bytes) := do
  let m ← get
  let search (directories : List Bytes) := m.world.files.search m.place directories name
  if name.contains '/' then return search []
  else if standard then return search Files.searchPath
  else match m.tracks.path? name with
    | some path => return .ok path
    | none =>
      let found := search m.searchPath
      if (m.functions.lookup name).isNone then
        set { m with tracks := match found with
          | .ok path => m.tracks.keep name path
          | .error _ => m.tracks.forget name }
      return found

/-- The words for a refusal to start a program. -/
def startRefusal (name : Bytes) : SystemError → Bytes
  | .missing | .notDirectory => name ++ ": not found".toList
  | refusal => name ++ ": ".toList ++ refusal.text.toList

end Run

/-- **What a name stands for.** -/
inductive Meaning where
  /-- A word of the grammar. -/
  | keyword
  /-- A short name for a text. -/
  | short (text : Bytes)
  /-- A function. -/
  | function
  /-- A command of the shell. -/
  | own (special : Bool)
  /-- A program, which may have been found before. -/
  | program (path : Bytes) (known : Bool)
deriving DecidableEq, Repr

namespace Meaning

/-- A meaning in words. -/
def text : Meaning → Bytes
  | keyword => " is a shell keyword".toList
  | short text => " is an alias for ".toList ++ text
  | function => " is a shell function".toList
  | own true => " is a special shell builtin".toList
  | own false => " is a shell builtin".toList
  | program path true => " is a tracked alias for ".toList ++ path
  | program path false => " is ".toList ++ path

/-- **Finds what a name stands for**, if it stands for anything. A path does if there is
something at it. -/
def of? (standard : Bool) (name : Bytes) : Run (Option Meaning) := do
  let m ← get
  if Token.keywords.any (fun word => word.toList = name) then return some keyword
  else if let some text := m.aliases.lookup name then return some (short text)
  else if (m.functions.lookup name).isSome then return some function
  else if isSpecialName name then return some (own true)
  else if Builtin.isBuiltin name then return some (own false)
  else if name.contains '/' then
    return (m.world.files.find m.place name).toOption.map fun _ => program name false
  else match if standard then none else m.tracks.find? name with
    | some t => return some (program t.path true)
    | none => return (← Run.findProgram standard name).toOption.map (program · false)

end Meaning

namespace Builtin

/-- Describes a name in words. -/
def describe (standard : Bool) (name : Bytes) : Run Nat := do
  match ← Meaning.of? standard name with
  | some meaning =>
    Run.say (name ++ meaning.text ++ ['\n'])
    return 0
  | none =>
    Run.say (name ++ ": not found\n".toList)
    return 127

/-- Prints what a name would run. -/
def whereIs (standard : Bool) (name : Bytes) : Run Nat := do
  match ← Meaning.of? standard name with
  | none => return 127
  | some (.short text) =>
    Run.say "alias ".toList
    sayShort name text
    return 0
  | some (.program path _) =>
    Run.say (path ++ ['\n'])
    return 0
  | some _ =>
    Run.say (name ++ ['\n'])
    return 0

/-- Describes names. -/
def type : Builtin := fun arguments =>
  arguments.foldlM (fun status name => do return max status (← describe false name)) 0

/-- Says what a name would run. -/
def command : Builtin := fun arguments => do
  let (options, arguments) ← options "pvV" arguments
  let given (letter : Char) : Bool := options.any (·.1 = letter)
  match arguments with
  | [] => return 0
  | name :: _ =>
    if given 'V' then describe (given 'p') name
    else if given 'v' then whereIs (given 'p') name
    else return 0

/-- Looks for programs anew, or lists those that have been found. A path is not looked for. -/
def hash : Builtin := fun arguments => do
  let (options, names) ← options "r" arguments
  if !options.isEmpty then
    modify fun m => { m with tracks := [] }
    return 0
  let m ← get
  if names.isEmpty then m.tracks.listing.forM fun path => Run.say (path ++ ['\n'])
  names.foldlM (fun status name => do
    let m ← get
    if name.contains '/' || isBuiltin name || (m.functions.lookup name).isSome then return status
    set { m with tracks := m.tracks.forget name }
    match ← Run.findProgram false name with
    | .ok _ => return status
    | .error refusal =>
      Run.complain (Run.startRefusal name refusal)
      return 1) 0

end Builtin

end SnapBlocks.Host.Shell
