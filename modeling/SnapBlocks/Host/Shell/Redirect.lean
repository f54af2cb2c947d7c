import SnapBlocks.Host.Shell.Expansion

/-!
# Redirections

A redirection is carried out in two steps. First the words of all redirections of a
command are expanded; then the descriptors are changed, one redirection after another,
until one fails. What a failure means is for the command to say.
-/

namespace SnapBlocks.Host.Shell

/-- **A redirection whose word has been expanded.** -/
inductive Change where
  /-- A file is opened. -/
  | file (descriptor : Nat) (direction : Direction) (path : Bytes)
  /-- Another descriptor is copied. -/
  | copy (descriptor source : Nat)
  /-- The descriptor is closed. -/
  | close (descriptor : Nat)
  /-- A here-document is read. -/
  | document (descriptor number : Nat)
deriving DecidableEq, Repr

/-- The descriptor that a redirection changes. -/
def Change.descriptor : Change → Nat
  | file descriptor _ _ | copy descriptor _ | close descriptor | document descriptor _ => descriptor

namespace Run

/-- **Expands the word of a redirection.** -/
def change : Redirection Command → Run Change
  | .document descriptor number => return .document descriptor number
  | .target descriptor .copy word => do
    match ← textOf word with
    | ['-'] => return .close descriptor
    | text =>
      match text with
      | [c] => if c.isDigit then return .copy descriptor (c.toNat - 48)
      | _ => pure ()
      modify fun m => { m with line := m.reached }
      raise "Syntax error: Bad fd number".toList
  | .target descriptor direction word => do return .file descriptor direction (← textOf word)

/-- The shell's own words for a refusal to open or make a file. -/
def refusalText (writes : Bool) : SystemError → Bytes
  | .missing | .notDirectory => (if writes then "Directory nonexistent" else "No such file").toList
  | refusal => refusal.text.toList

/-- Stops since a file can not be read. -/
def refuse {α : Type} (path : Bytes) (refusal : SystemError) : Run α :=
  raise ("cannot open ".toList ++ path ++ ": ".toList ++ refusalText false refusal)

/-- How a direction opens a file. -/
def access : Direction → Access
  | .read | .copy => .read
  | .write | .overwrite => .write
  | .append => .append
  | .update => .update

/-- **Carries out a redirection**, or complains. -/
def carryOut (c : Change) : Run Unit := do
  let m ← get
  match c with
  | .close descriptor => point descriptor none
  | .copy descriptor source =>
    if descriptor ≠ source then
      match m.held source with
      | some stream => point descriptor (some stream)
      | none => raise (Bytes.ofNat source ++ ": ".toList ++ SystemError.badDescriptor.text.toList)
  | .document descriptor number =>
    let text ← textOf (m.documents[number]?.getD [])
    let m ← get
    let (world, stream) := m.world.addSource text
    set { m with world }
    point descriptor (some stream)
  | .file descriptor direction path =>
    let access := access direction
    let guarded := m.has 'C' && direction = .write
    let there? := if guarded then (m.world.files.find m.place path).toOption else none
    let creates := access.writes && there?.all fun node => (node matches .file _) || node = .program
    let what := (if creates then "cannot create " else "cannot open ").toList ++ path ++ ": ".toList
    if there?.isSome && creates then raise (what ++ "File exists".toList)
    match m.world.openFile m.held m.place access path with
    | .ok (stream, world) =>
      set { m with world }
      point descriptor (some stream)
    | .error refusal => raise (what ++ refusalText creates refusal)

/-- **Carries out redirections**; whether none has failed. -/
def carryOutAll (changes : List Change) : Run Bool := do
  try
    changes.forM carryOut
    return true
  catch stop => if stop = .error then return false else throw stop

end Run

end SnapBlocks.Host.Shell
