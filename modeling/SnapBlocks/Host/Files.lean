import SnapBlocks.Host.Bytes

/-!
# The tree of files

A file is found by walking from a directory, one name of its path after another.
The walk can be refused: a name is missing, lies below something that is no
directory, or is too long. The refusals are those of the system, with its words and
its numbers for them.

The tree is a table of places. A place is the list of the names that lead to it
from the root. `Files.standard` is the tree that programs start with; it holds no
more than the directories and the special files that every system has.
-/

namespace SnapBlocks.Host

/-- **Why the system refuses.** -/
inductive SystemError where
  /-- There is nothing of this name. -/
  | missing
  /-- The list of arguments is too long. -/
  | tooManyArguments
  /-- The descriptor is closed or does not allow it. -/
  | badDescriptor
  /-- It is not allowed. -/
  | denied
  /-- Something on the way is no directory. -/
  | notDirectory
  /-- It is a directory. -/
  | isDirectory
  /-- The name is too long. -/
  | nameTooLong
  /-- There is no room left. -/
  | noSpace
  /-- What the name stands for is not there. -/
  | noDevice
  /-- Nobody is going to read what is written. -/
  | brokenPipe
deriving DecidableEq, Repr

namespace SystemError

/-- The system's words for a refusal. -/
def text : SystemError → String
  | missing => "No such file or directory"
  | tooManyArguments => "Argument list too long"
  | badDescriptor => "Bad file descriptor"
  | denied => "Permission denied"
  | notDirectory => "Not a directory"
  | isDirectory => "Is a directory"
  | nameTooLong => "File name too long"
  | noSpace => "No space left on device"
  | noDevice => "No such device or address"
  | brokenPipe => "Broken pipe"

/-- The system's number for a refusal. -/
def number : SystemError → Nat
  | missing => 2
  | tooManyArguments => 7
  | badDescriptor => 9
  | denied => 13
  | notDirectory => 20
  | isDirectory => 21
  | nameTooLong => 36
  | noSpace => 28
  | noDevice => 6
  | brokenPipe => 32

end SystemError

/-- **A place in the tree**: the names that lead to it from the root. -/
abbrev Place := List Bytes

/-- The path to a place. -/
def Place.path (place : Place) : Bytes :=
  if place.isEmpty then ['/'] else (place.map fun name => '/' :: name).flatten

/-- **What can lie at a place.** -/
inductive Node where
  /-- A directory. -/
  | directory
  /-- A file with its contents. -/
  | file (contents : Bytes)
  /-- A program that can be started. -/
  | program
  /-- Another name for a place. -/
  | link (target : Place)
  /-- The file that is always empty. -/
  | null
  /-- The file that is always full. -/
  | full
  /-- The terminal of the process, of which there is none. -/
  | terminal
  /-- What a program holds under a descriptor. -/
  | descriptor (number : Nat)
deriving DecidableEq, Repr

/-- **A tree of files**: what lies at which place, latest first. -/
structure Files where
  /-- The nodes and their places. -/
  nodes : List (Place × Node)

namespace Files

/-- What lies at a place. -/
def node? (files : Files) (place : Place) : Option Node := files.nodes.lookup place

/-- The tree with something put at a place. -/
def put (files : Files) (place : Place) (node : Node) : Files :=
  ⟨(place, node) :: files.nodes.filter (·.1 ≠ place)⟩

/-- The names of what lies directly in a directory. -/
def children (files : Files) (place : Place) : List Bytes :=
  files.nodes.filterMap fun (other, _) =>
    if other.length = place.length + 1 && other.dropLast = place then other.getLast? else none

/-- Whether a place is in a part of the tree that the system keeps, where no files can be made. -/
def isKept (place : Place) : Bool := place.head? = some "proc".toList

/-- The most bytes that the name of one node can have. -/
def nameLimit : Nat := 255

/-- The number of bytes at which a path is too long. -/
def pathLimit : Nat := 4096

/-- The names in a path: what lies between its slashes. -/
def names (path : Bytes) : List Bytes :=
  ((path.splitBy fun a b => (a == '/') == (b == '/')).filter fun part => part.head? ≠ some '/')

/-- The place that another name for it stands for; all other places stand for themselves. -/
def follow (files : Files) (place : Place) : Place :=
  match files.node? place with
  | some (.link target) => target
  | _ => place

/-- **Walks the names of a path** from a place. Only the last name may be missing, and it is
not followed if it is another name for a place. -/
def walk (files : Files) (place : Place) : List Bytes → Except SystemError Place
  | [] => .ok place
  | name :: rest =>
    let place := files.follow place
    match files.node? place with
    | none => .error .missing
    | some .directory =>
      if nameLimit < name.length then .error .nameTooLong
      else if name = ['.'] then files.walk place rest
      else if name = ['.', '.'] then files.walk place.dropLast rest
      else files.walk (place ++ [name]) rest
    | some _ => .error .notDirectory

/-- Whether a path says that it leads to a directory. -/
def endsInSlash (path : Bytes) : Bool := path.getLast? == some '/'

/-- The place that a path leads to from a directory, as it is named. -/
def locateName (files : Files) (base : Place) (path : Bytes) : Except SystemError Place :=
  if path.isEmpty then .error .missing
  else if pathLimit ≤ path.length then .error .nameTooLong
  else files.walk (if path.head? = some '/' then [] else base) (names path)

/-- **The place that a path leads to** from a directory. -/
def locate (files : Files) (base : Place) (path : Bytes) : Except SystemError Place := do
  let place := files.follow (← files.locateName base path)
  match files.node? place with
  | none | some .directory => return place
  | some _ => if endsInSlash path then .error .notDirectory else return place

/-- **What a path leads to** from a directory. -/
def find (files : Files) (base : Place) (path : Bytes) : Except SystemError Node := do
  match files.node? (← files.locate base path) with
  | some node => return node
  | none => .error .missing

/-- The directories in which a program is looked for, in order. -/
def searchPath : List Bytes :=
  ["/usr/local/sbin", "/usr/local/bin", "/usr/sbin", "/usr/bin", "/sbin", "/bin"].map
    String.toList

/-- **The tree that programs start with.** -/
def standard (programs : List String) : Files :=
  let place (path : String) : Place := names path.toList
  let directories := ["/", "/usr", "/usr/bin", "/usr/sbin", "/usr/local", "/usr/lib",
    "/usr/local/bin", "/usr/local/sbin", "/usr/share", "/etc", "/tmp", "/dev",
    "/var", "/var/tmp", "/home", "/root", "/opt", "/proc", "/proc/self", "/proc/self/fd", "/sys",
    "/run", "/mnt", "/srv", "/boot", "/media", "/work"]
  let links := [("/bin", "/usr/bin"), ("/sbin", "/usr/sbin"), ("/lib", "/usr/lib"),
    ("/dev/fd", "/proc/self/fd"), ("/dev/stdin", "/proc/self/fd/0"),
    ("/dev/stdout", "/proc/self/fd/1"), ("/dev/stderr", "/proc/self/fd/2")]
  let devices : List (String × Node) := [("/dev/null", .null), ("/dev/zero", .null),
    ("/dev/random", .null), ("/dev/urandom", .null), ("/dev/full", .full), ("/dev/tty", .terminal)]
  let descriptors := (List.range 10).map fun n => (s!"/proc/self/fd/{n}", Node.descriptor n)
  let texts := [("/etc/passwd", "root:x:0:0:root:/root:/bin/bash\n"), ("/etc/group", "root:x:0:\n"),
    ("/etc/hosts", "127.0.0.1\tlocalhost\n"), ("/etc/hostname", "localhost\n")]
  ⟨directories.map (fun path => (place path, .directory))
    ++ links.map (fun (path, target) => (place path, .link (place target)))
    ++ (devices ++ descriptors).map (fun (path, node) => (place path, node))
    ++ texts.map (fun (path, text) => (place path, .file text.toList))
    ++ programs.map (fun name => (place s!"/usr/bin/{name}", .program))⟩

/-- The directory that programs are started in. -/
def startingPlace : Place := ["work".toList]

/-- The place of the program that a path leads to. -/
def executable (files : Files) (base : Place) (path : Bytes) : Except SystemError Place := do
  let place ← files.locate base path
  match files.node? place with
  | some .program => return place
  | some _ => .error .denied
  | none => .error .missing

/-- The path to a name in a directory, where no path at all is that of the directory one is in. -/
def under (directory name : Bytes) : Bytes :=
  if directory.isEmpty then name else directory ++ '/' :: name

/-- **The path to a program** by its name: a name with a slash is a path, any other is
looked for in some directories, one after another. -/
def search (files : Files) (base : Place) (directories : List Bytes) (name : Bytes) :
    Except SystemError Bytes := do
  if name.contains '/' then
    let _ ← files.executable base name
    return name
  else
    let tries := directories.map fun directory =>
      let path := under directory name
      (path, files.executable base path)
    match tries.find? fun (_, found) => found matches .ok _ with
    | some (path, _) => return path
    | none =>
      if tries.any fun (_, found) => found matches .error .denied then .error .denied
      else .error .missing

end Files

end SnapBlocks.Host
