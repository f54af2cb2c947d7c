import SnapBlocks.Host.Numeral

/-!
# Signals

A **signal** is sent to a process from outside. It has a number and a name; what it does
to a process that has not said otherwise is its effect. Those beyond the thirty-one that
have a meaning of their own are for programs to give a meaning to.
-/

namespace SnapBlocks.Host

/-- **A signal**, by its number. Zero is no signal, and stands for the end of a process. -/
abbrev Signal := Nat

/-- **What a signal does to a process** that has not said otherwise. -/
inductive Effect where
  /-- It ends the process. -/
  | ends
  /-- Nothing. -/
  | nothing
deriving DecidableEq, Repr

namespace Signal

/-- The names of the signals that have a meaning of their own, and the words for them. -/
def known : List (String × String) :=
  [("EXIT", ""), ("HUP", "Hangup"), ("INT", "Interrupt"), ("QUIT", "Quit"),
    ("ILL", "Illegal instruction"), ("TRAP", "Trace/breakpoint trap"), ("ABRT", "Aborted"),
    ("BUS", "Bus error"), ("FPE", "Floating point exception"), ("KILL", "Killed"),
    ("USR1", "User defined signal 1"), ("SEGV", "Segmentation fault"),
    ("USR2", "User defined signal 2"), ("PIPE", "Broken pipe"), ("ALRM", "Alarm clock"),
    ("TERM", "Terminated"), ("16", "Stack fault"), ("CHLD", "Child exited"),
    ("CONT", "Continued"), ("STOP", "Stopped (signal)"), ("TSTP", "Stopped"),
    ("TTIN", "Stopped (tty input)"), ("TTOU", "Stopped (tty output)"),
    ("URG", "Urgent I/O condition"), ("XCPU", "CPU time limit exceeded"),
    ("XFSZ", "File size limit exceeded"), ("VTALRM", "Virtual timer expired"),
    ("PROF", "Profiling timer expired"), ("WINCH", "Window changed"), ("IO", "I/O possible"),
    ("PWR", "Power failure"), ("SYS", "Bad system call"), ("32", "Unknown signal 32"),
    ("33", "Unknown signal 33")]

/-- The number of the first signal without a meaning of its own. -/
def firstFree : Signal := 34

/-- The number of the last signal. -/
def last : Signal := 64

/-- The number of a signal that only its receiver can not turn away. -/
def kill : Signal := 9

/-- The number of the signal that asks a process to end. -/
def terminate : Signal := 15

/-- The number of the signal that comes from the keyboard. -/
def interrupt : Signal := 2

/-- The number of the signal that comes from the keyboard in earnest. -/
def quit : Signal := 3

/-- The number of the signal at writing to a pipe that nobody reads. -/
def pipe : Signal := 13

/-- The number of the signal that a process that was started has ended. -/
def child : Signal := 17

/-- **The name of a signal.** Those that are free are counted from both ends. -/
def name (s : Signal) : String :=
  match known[s]? with
  | some (name, _) => name
  | none =>
    if s = firstFree then "RTMIN"
    else if s = last then "RTMAX"
    else if s < firstFree + 16 then s!"RTMIN+{s - firstFree}"
    else s!"RTMAX-{last - s}"

/-- The words for a signal. -/
def text (s : Signal) : String :=
  match known[s]? with
  | some (_, text) => text
  | none => s!"Real-time signal {s - firstFree}"

/-- What a signal does to a process that has not said otherwise. A process can not be stopped
here, since nothing could make it go on. -/
def effect (s : Signal) : Effect :=
  if ["EXIT", "CHLD", "CONT", "STOP", "TSTP", "TTIN", "TTOU", "URG", "WINCH"].contains s.name then
    .nothing
  else .ends

/-- All signals from a number on. -/
def startingAt (least : Signal) : List Signal := (List.range (last + 1)).drop least

/-- **The signal that a text names or numbers**, from a least number on; a number may also be
smaller. -/
def ofText? (least : Signal) (text : Bytes) : Option Signal :=
  if !text.isEmpty && text.all Char.isDigit then
    let n := Numeral.value 10 text
    if n ≤ last then some n else none
  else
    (startingAt least).find? fun s => s.name.toList = text.map Char.toUpper

end Signal

end SnapBlocks.Host
