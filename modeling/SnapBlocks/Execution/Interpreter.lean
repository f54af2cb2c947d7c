import SnapBlocks.Execution.Outcome
import SnapBlocks.Text.Blank
import SnapBlocks.Text.Utf8

/-!
# Running programs with an interpreter

An interpreter is a program with arguments, to which the program to be run is
sent as input. It prints on two channels and ends with a status or by a signal; status
zero is a success. From that follows the outcome: the output read as text, and after a
failure what was printed on the channel for complaints, or failing that how it ended.

What an interpreter does is not said here. Which ones can be started, and what comes of it,
is said by `Installed`: a name and arguments give either the system's words for why there
is none or a program that takes its input. Whatever that is, it goes one of four ways: it
can not be started, it does not take its input, its output can not be collected, or it
runs to its end.
-/

namespace SnapBlocks

/-- **How a program ended.** -/
inductive Exit where
  /-- By itself, with a status. -/
  | status (code : Nat)
  /-- By a signal. The system may have kept a picture of the program's memory. -/
  | signal (number : Nat) (kept : Bool)
deriving DecidableEq, Repr

namespace Exit

/-- Whether the program has succeeded. -/
def isSuccess (e : Exit) : Bool := e = .status 0

/-- The names of the signals that have one, from the first signal on. -/
def signalNames : List String :=
  ["SIGHUP", "SIGINT", "SIGQUIT", "SIGILL", "SIGTRAP", "SIGABRT", "SIGBUS", "SIGFPE", "SIGKILL",
    "SIGUSR1", "SIGSEGV", "SIGUSR2", "SIGPIPE", "SIGALRM", "SIGTERM", "SIGSTKFLT", "SIGCHLD",
    "SIGCONT", "SIGSTOP", "SIGTSTP", "SIGTTIN", "SIGTTOU", "SIGURG", "SIGXCPU", "SIGXFSZ",
    "SIGVTALRM", "SIGPROF", "SIGWINCH", "SIGIO", "SIGPWR", "SIGSYS"]

/-- The name of a signal in brackets, if it has one. -/
def signalName (number : Nat) : String :=
  match number with
  | 0 => ""
  | before + 1 => ((signalNames[before]?).map fun name => s!" ({name})").getD ""

/-- **The words for how a program ended.** -/
def text : Exit → String
  | status code => s!"exit status: {code}"
  | signal number kept =>
    s!"signal: {number}{signalName number}" ++ if kept then " (core dumped)" else ""

end Exit

/-- **How a program behaved that ran to its end.** -/
structure Completion where
  /-- What it printed. -/
  out : List UInt8
  /-- What it printed on the channel for complaints. -/
  err : List UInt8
  /-- How it ended. -/
  exit : Exit
deriving DecidableEq, Repr

/-- **What came of a program that was started.** The reasons are the system's words. -/
inductive Course where
  /-- It did not take its input. -/
  | unsent (reason : String)
  /-- What it printed could not be collected. -/
  | uncollected (reason : String)
  /-- It ran to its end. -/
  | completed (completion : Completion)
deriving DecidableEq, Repr

/-- **The programs that can be started**: by name and with arguments. A program takes its
input; that there is none has a reason. -/
abbrev Installed := String → List String → Except String (List UInt8 → Course)

/-- **An interpreter.** -/
structure Interpreter where
  /-- The name of the program to start. -/
  name : String
  /-- The arguments to start it with. -/
  arguments : List String
deriving DecidableEq, Repr

namespace Completion

/-- **The outcome of a program that was sent to the interpreter `name`.** -/
def outcome (c : Completion) (name : String) : Outcome :=
  let stdout := Text.Utf8.decode c.out
  if c.exit.isSuccess then .success stdout
  else
    let complaint := Text.trim (Text.Utf8.decode c.err)
    .failure stdout (if complaint.isEmpty then s!"{name} exited with {c.exit.text}" else complaint)

end Completion

namespace Interpreter

/-- The interpreter that is used unless another is named; it reads the program
from its input. -/
def standard : Interpreter := ⟨"python3", ["-"]⟩

instance : Inhabited Interpreter := ⟨standard⟩

/-- **Runs a program.** -/
def execute (installed : Installed) (i : Interpreter) (program : String) : Outcome :=
  match installed i.name i.arguments with
  | .error reason => (LaunchError.start i.name reason).outcome
  | .ok start =>
    match start (Text.Utf8.encode program) with
    | .unsent reason => (LaunchError.send reason).outcome
    | .uncollected reason => (LaunchError.collect reason).outcome
    | .completed completion => completion.outcome i.name

/-- The interpreter as a runner; it has no memory. -/
def runner (installed : Installed) (i : Interpreter) : Runner Unit := fun program memory =>
  (i.execute installed program, memory)

end Interpreter

end SnapBlocks
