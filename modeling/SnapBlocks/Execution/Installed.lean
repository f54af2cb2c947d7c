import SnapBlocks.Execution.Interpreter
import SnapBlocks.Host.Shell.Start

/-!
# A host to try interpreters on

Running a program takes an `Installed`, and nothing in the library depends on which one.
This module gives one, so that interpreters can be tried without a system around: a host
with a shell and a few programs beside it, all of which lie under `Host` and are used
nowhere else.

A program is found as the system finds it: a name with a slash is a path, any other is
looked for in the usual directories. What can not be handed to the system at all, since
a zero byte ends a name there, is refused before that. A program is started with its name,
its arguments and its input, in a world of its own.

The input goes through a pipe. A program need not read all of it, and what it leaves stays
in the pipe, as long as it fits there; if it does not, sending breaks off.
-/

namespace SnapBlocks

namespace Host

/-- The number of bytes at which one argument is too long. -/
def argumentLimit : Nat := 131072

/-- The tree of files of a host. -/
def hostFiles : Files := .standard programNames

/-- The system's words and number for a refusal. -/
def systemText (refusal : SystemError) : String := s!"{refusal.text} (os error {refusal.number})"

/-- **The place of the program that a name stands for.** -/
def programPlace (name : Bytes) : Except SystemError Place :=
  if name.isEmpty then .error .missing
  else if !name.contains '/' && Files.nameLimit < name.length then .error .nameTooLong
  else do
    let path ← hostFiles.search Files.startingPlace Files.searchPath name
    hostFiles.executable Files.startingPlace path

/-- The depth to which shells can start one another. -/
def shellDepth : Nat := 1000

/-- The program at a place. -/
def programAt (place : Place) : Program :=
  let file := place.getLast?.getD []
  let shell := Shell.program shellDepth
  match (Shell.Run.programs shell).find? fun (name, _) => name.toList = file with
  | some (_, program) => program
  | none => trivial 126

/-- How an ending looks to who started the program. Of a status that a process gives itself
eight bits are left, and no picture of its memory is kept. -/
def Ending.exit : Ending → Exit
  | .exited status => .status (status % 256)
  | .killed signal => .signal signal false

/-- The number of bytes that a pipe holds. -/
def pipeCapacity : Nat := 65536

/-- **Starts a program** with an input, and lets it run to its end. -/
def course (program : Program) (name : Bytes) (arguments : List Bytes) (input : List UInt8) :
    Course :=
  let call : Call := {
    name
    arguments
    environment := [("PATH".toList, Bytes.join [':'] Files.searchPath)]
    descriptors := [(0, .source 0), (1, .sink 0), (2, .sink 1)]
    place := Files.startingPlace }
  let (w, ending) := program call (.start hostFiles (Bytes.ofBytes input))
  if pipeCapacity < (w.unread 0).length then .unsent (systemText .brokenPipe)
  else .completed ⟨Bytes.toBytes (w.written 0), Bytes.toBytes (w.written 1), ending.exit⟩

end Host

open Host

/-- **The programs of the host.** -/
def installed : Installed := fun name arguments =>
  let called := Bytes.ofString name
  let given := arguments.map Bytes.ofString
  if (called :: given).any (·.contains '\x00') then .error "nul byte found in provided data"
  else
    match programPlace called with
    | .error refusal => .error (systemText refusal)
    | .ok place =>
      if given.any (argumentLimit ≤ ·.length) then .error (systemText .tooManyArguments)
      else .ok (course (programAt place) called given)

end SnapBlocks
