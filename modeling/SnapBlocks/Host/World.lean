import SnapBlocks.Host.Files
import SnapBlocks.Host.Limit
import SnapBlocks.Host.Signal

/-!
# What programs share

Programs read from sources and write to sinks. The two ends of a pipe are a source
that holds what was written before, and a sink that keeps what is written now; here
a pipe's writer runs to its end before its reader starts, so no more is needed. The
remaining way to read and write is a file that has been opened, and with it the
place in the file that has been reached.

A **stream** is what a program holds under a descriptor: one of these, or a device.
All that changes as programs run is the **world**, a table of sources, of sinks and of
opened files, with the tree of files.

A program that runs is a **process**, and has a number. Signals are sent to processes by
number. They are kept until the process looks for them, or has ended.
-/

namespace SnapBlocks.Host

/-- **What a program can hold under a descriptor.** -/
inductive Stream where
  /-- The reading end of a pipe. -/
  | source (index : Nat)
  /-- The writing end of a pipe that is read when it has been written. -/
  | sink (index : Nat)
  /-- The writing end of a pipe of which one holds the reading end. -/
  | feed (index : Nat)
  /-- A file that has been opened. -/
  | opened (index : Nat)
  /-- The file that is always empty. -/
  | null
  /-- The file that is always full. -/
  | full
deriving DecidableEq, Repr

/-- The ways to open a file. -/
inductive Access where
  /-- For reading. -/
  | read
  /-- For writing, from an empty file on. -/
  | write
  /-- For writing behind what is there. -/
  | append
  /-- For reading and writing what is there. -/
  | update
deriving DecidableEq, Repr

namespace Access

/-- Whether the file can be read. -/
def reads : Access → Bool
  | read | update => true
  | write | append => false

/-- Whether the file can be written. -/
def writes (a : Access) : Bool := a ≠ .read

end Access

/-- **A file that has been opened.** -/
structure Opened where
  /-- Where the file lies. -/
  place : Place
  /-- How it was opened. -/
  access : Access
  /-- The number of bytes in front of the place that has been reached. -/
  reached : Nat

/-- **The world that programs run in.** -/
structure World where
  /-- What is left to read of each pipe. -/
  sources : Array Bytes
  /-- What has been written to each pipe, latest first. -/
  sinks : Array (List Bytes)
  /-- The files that have been opened. -/
  openings : Array Opened
  /-- The tree of files. -/
  files : Files
  /-- The numbers of the processes that run. -/
  processes : List Nat
  /-- The number of the next process. -/
  nextProcess : Nat
  /-- The signals that have been sent to processes and not been noticed, in order. -/
  sent : List (Nat × Signal) := []

/-- The number of the process that starts the first program. -/
def firstParent : Nat := 4710

/-- The number of the first program. -/
def firstProcess : Nat := 4711

namespace World

/-- The world with an input and two outputs, under the numbers 0 and 0, 1. -/
def start (files : Files) (input : Bytes) : World :=
  { sources := #[input]
    sinks := #[[], []]
    openings := #[]
    files
    processes := [firstProcess, firstParent, 1]
    nextProcess := firstProcess + 1 }

/-- The world with another process; its number. -/
def begin (w : World) : World × Nat :=
  ({ w with processes := w.nextProcess :: w.processes, nextProcess := w.nextProcess + 1 },
    w.nextProcess)

/-- The world after a process has ended. -/
def finish (w : World) (process : Nat) : World :=
  { w with
    processes := w.processes.filter (· ≠ process)
    sent := w.sent.filter (·.1 ≠ process) }

/-- **Sends a signal to a process**, if there is one of this number. Zero stands for all
processes, and is sent nothing but looked for. -/
def send? (w : World) (process : Nat) (s : Signal) : Option World :=
  let targets := if process = 0 then w.processes.filter (firstProcess ≤ ·)
    else w.processes.filter (· = process)
  if targets.isEmpty then none
  else if s = 0 then some w
  else some { w with sent := w.sent ++ targets.map (·, s) }

/-- The signals that a process has been sent. -/
def sentTo (w : World) (process : Nat) : List Signal :=
  (w.sent.filter (·.1 = process)).map (·.2)

/-- The world after a process has noticed its signals. -/
def noticed (w : World) (process : Nat) : World :=
  { w with sent := w.sent.filter (·.1 ≠ process) }

/-- What is left to read of a pipe. -/
def unread (w : World) (index : Nat) : Bytes := w.sources[index]?.getD []

/-- What has been written to a pipe. -/
def written (w : World) (index : Nat) : Bytes := (w.sinks[index]?.getD []).reverse.flatten

/-- The world with something else left to read of a pipe. -/
def leave (w : World) (index : Nat) (text : Bytes) : World :=
  { w with sources := w.sources.setIfInBounds index text }

/-- A new pipe that holds a text. -/
def addSource (w : World) (text : Bytes) : World × Stream :=
  ({ w with sources := w.sources.push text }, .source w.sources.size)

/-- A new pipe to write to; its number. -/
def addSink (w : World) : World × Nat :=
  ({ w with sinks := w.sinks.push [] }, w.sinks.size)

/-- The contents of a file. -/
def contents (w : World) (place : Place) : Bytes :=
  match w.files.node? place with
  | some (.file text) => text
  | _ => []

/-- Where the file lies that a stream stands for, if it is one that can be written. -/
def place? (w : World) : Stream → Option Place
  | .opened i => (w.openings[i]?).map (·.place)
  | .source _ | .sink _ | .feed _ | .null | .full => none

/-- What reading from a stream gives, if it is allowed, up to the end. -/
def ahead (w : World) : Stream → Except SystemError Bytes
  | .source i => .ok (w.unread i)
  | .sink _ | .feed _ => .error .badDescriptor
  | .null | .full => .ok []
  | .opened i =>
    match w.openings[i]? with
    | none => .error .badDescriptor
    | some o =>
      if !o.access.reads then .error .badDescriptor
      else if w.files.node? o.place = some .directory then .error .isDirectory
      else .ok ((w.contents o.place).drop o.reached)

/-- The world after a number of bytes has been read from a stream. -/
def advance (w : World) (s : Stream) (count : Nat) : World :=
  match s with
  | .source i => w.leave i ((w.unread i).drop count)
  | .opened i =>
    { w with openings := w.openings.modify i fun o => { o with reached := o.reached + count } }
  | .sink _ | .feed _ | .null | .full => w

/-- **Reads all that is left of a stream.** -/
def readAll (w : World) (s : Stream) : Except SystemError (Bytes × World) := do
  let text ← w.ahead s
  return (text, w.advance s text.length)

/-- **Writes to a stream.** -/
def write (w : World) (s : Stream) (text : Bytes) : Except SystemError World :=
  match s with
  | .source _ => .error .badDescriptor
  | .null => .ok w
  | .full => .error .noSpace
  | .sink i => .ok { w with sinks := w.sinks.modify i (text :: ·) }
  | .feed i => .ok (w.leave i (w.unread i ++ text))
  | .opened i =>
    match w.openings[i]? with
    | none => .error .badDescriptor
    | some o =>
      if !o.access.writes then .error .badDescriptor
      else
        let old := w.contents o.place
        let start := if o.access = .append then old.length else o.reached
        let gap := List.replicate (start - old.length) '\x00'
        let new := old.take start ++ gap ++ text ++ old.drop (start + text.length)
        .ok { w with
          files := w.files.put o.place (.file new)
          openings := w.openings.modify i fun o => { o with reached := start + text.length } }

/-- Opens what lies at a place; a file is made if it is to be written and missing. -/
def openPlace (w : World) (place : Place) (access : Access) : Except SystemError (Stream × World) :=
  let opened (w : World) : Stream × World :=
    (.opened w.openings.size, { w with openings := w.openings.push ⟨place, access, 0⟩ })
  let emptied : World := { w with files := w.files.put place (.file []) }
  match w.files.node? place with
  | some .null => .ok (.null, w)
  | some .full => .ok (.full, w)
  | some .terminal => .error .noDevice
  | some .directory => if access.writes then .error .isDirectory else .ok (opened w)
  | some .program | some (.link _) | some (.descriptor _) => .ok (opened w)
  | some (.file _) => .ok (opened (if access = .write then emptied else w))
  | none => if access.writes && !Files.isKept place then .ok (opened emptied) else .error .missing

/-- **Opens a file** by a path. Where that stands for a descriptor, a file that the program
holds under it is opened once more, and of a pipe the other end can be had. What is to be
written can not have a slash behind it. -/
def openFile (w : World) (held : Nat → Option Stream) (base : Place) (access : Access)
    (path : Bytes) : Except SystemError (Stream × World) := do
  if access.writes && Files.endsInSlash path then
    let _ ← w.files.locateName base path
    .error .isDirectory
  let place ← w.files.locate base path
  match w.files.node? place with
  | some (.descriptor number) =>
    match held number with
    | none => .error .missing
    | some (.source i) => return (if access.writes then .feed i else .source i, w)
    | some stream =>
      match w.place? stream with
      | some place => w.openPlace place access
      | none => return (stream, w)
  | _ => w.openPlace place access

end World

/-- **What a process hands on** to those that it starts, beside its variables. -/
structure Heritage where
  /-- The bits that new files do not get. -/
  mask : Nat := 18
  /-- The limits of what can be used. -/
  limits : Limits := .standard
  /-- The signals that are turned away. -/
  ignored : List Signal := []

/-- **A program as it is called.** -/
structure Call where
  /-- The name it is called by. -/
  name : Bytes
  /-- Its arguments. -/
  arguments : List Bytes
  /-- The variables handed to it. -/
  environment : List (Bytes × Bytes)
  /-- What it holds under its descriptors. -/
  descriptors : List (Nat × Stream)
  /-- The directory it works in. -/
  place : Place
  /-- What else has been handed to it. -/
  heritage : Heritage := {}
  /-- The number of its process. -/
  process : Nat := firstProcess
  /-- The number of the process that started it. -/
  parent : Nat := firstParent

namespace Call

/-- What the program holds under a descriptor. -/
def held (c : Call) (number : Nat) : Option Stream := c.descriptors.lookup number

/-- Writes to a descriptor; nothing happens if it is closed. -/
def say (c : Call) (w : World) (number : Nat) (text : Bytes) : World :=
  match c.held number with
  | none => w
  | some stream => (w.write stream text).toOption.getD w

/-- Writes a line of complaint behind the program's name. -/
def complain (c : Call) (w : World) (text : Bytes) : World :=
  c.say w 2 (c.name ++ ": ".toList ++ text ++ ['\n'])

end Call

/-- **How a process ends.** -/
inductive Ending where
  /-- By itself, with a status. -/
  | exited (status : Nat)
  /-- By a signal. -/
  | killed (signal : Signal)
deriving DecidableEq, Repr

namespace Ending

/-- **The status of an ending.** Of that which a process gives itself eight bits are left. -/
def status : Ending → Nat
  | exited status => status % 256
  | killed signal => 128 + signal

end Ending

/-- **A program**: it changes the world until it ends. -/
abbrev Program := Call → World → World × Ending

end SnapBlocks.Host
