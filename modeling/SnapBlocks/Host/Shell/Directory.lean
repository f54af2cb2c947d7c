import SnapBlocks.Host.Shell.Option

/-!
# The directory of the shell

The shell knows the path by which it has come to its directory, and by that path it goes
on: two dots take back the last name of it, whatever else the directory may be called.
With the option `P` it goes by the places themselves.
-/

namespace SnapBlocks.Host.Shell

/-- **The path that a relative or absolute one leads to**, with its dots resolved by name. Two
slashes in front, and no more than two, are kept. -/
def plainPath (current target : Bytes) : Bytes :=
  let doubled : Bytes → Bool
    | '/' :: '/' :: rest => rest.head? ≠ some '/'
    | _ => false
  let whole := if target.head? = some '/' then target else current ++ '/' :: target
  let root : Bytes := if doubled (if target.head? = some '/' then target else current) then
      ['/', '/'] else ['/']
  let names := (Files.names whole).foldl (fun (names : List Bytes) name =>
    if name = ['.'] then names
    else if name = ['.', '.'] then names.dropLast
    else names ++ [name]) []
  root ++ Bytes.join ['/'] names

/-- An absolute path of ordinary names is kept. -/
example : plainPath "/work".toList "/usr//lib/./x/..".toList = "/usr/lib".toList := by cbv

namespace Builtin

/-- Whether a path is looked for from other directories, too. -/
def isSearched (target : Bytes) : Bool :=
  match target with
  | '/' :: _ | ['.'] | '.' :: '/' :: _ | ['.', '.'] | '.' :: '.' :: '/' :: _ => false
  | _ => true

/-- **The path to go to**, and whether it is to be printed because it was found from another
directory. -/
def destination (m : Machine) (target : Bytes) : Bytes × Bool :=
  let leads (path : Bytes) : Bool :=
    match m.world.files.find m.place path with
    | .ok .directory => true
    | _ => false
  let found := match m.value? "CDPATH".toList with
    | some directories =>
      if isSearched target then
        (Machine.splitPath directories).findSome? fun (directory : Bytes) =>
          if directory.isEmpty then if leads target then some (target, false) else none
          else
            let path := directory ++ '/' :: target
            if leads path then some (path, true) else none
      else none
    | none => none
  found.getD (target, false)

/-- Whether the options ask for the places themselves. -/
def isPhysical (options : List (Char × Bytes)) : Bool := (options.getLast?.map (·.1)) = some 'P'

/-- Goes to another directory. -/
def cd : Builtin := fun arguments => do
  let (options, arguments) ← options "LP" arguments
  let m : Machine ← get
  let back := arguments.head? = some ['-']
  let target := match arguments with
    | [] => (m.value? "HOME".toList).getD []
    | target :: _ => if back then (m.value? "OLDPWD".toList).getD [] else target
  let target := if target.isEmpty then ['.'] else target
  let (path, found) := destination m target
  let path := if isPhysical options then path else plainPath m.directory path
  let place? : Option Place := match m.world.files.locate m.place path with
    | .ok place => if m.world.files.node? place = some .directory then some place else none
    | .error _ => none
  match place? with
  | none => Run.raise ("can't cd to ".toList ++ target)
  | some place =>
    let directory := if isPhysical options then place.path else path
    modify fun (m : Machine) => { m with place, tracks := m.tracks.doubt }
    Run.assign "OLDPWD".toList m.directory
    modify fun (m : Machine) => { m.handOn "OLDPWD".toList with directory }
    Run.assign "PWD".toList directory
    modify fun (m : Machine) => m.handOn "PWD".toList
    if back || found then Run.say (directory ++ ['\n'])
    return 0

/-- Prints the directory. -/
def pwd : Builtin := fun arguments => do
  let (options, _) ← options "LP" arguments
  let m ← get
  Run.say ((if isPhysical options then m.place.path else m.directory) ++ ['\n'])
  return 0

end Builtin

end SnapBlocks.Host.Shell
