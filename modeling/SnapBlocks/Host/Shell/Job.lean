import SnapBlocks.Host.World

/-!
# Jobs

A command that is not waited for becomes a **job**. It is run at the latest when its end
is asked for or when the shell ends; until then it is only known what running it will do.
A job has a slot, which is used again after its end has been told.

The last job is the current one, and the one before it the previous one. A job can be
asked for by these words or by its slot.
-/

namespace SnapBlocks.Host.Shell

/-- **How far a job has come.** -/
inductive JobState where
  /-- It runs; this is what it does. -/
  | running (rest : World → World × Ending)
  /-- It has ended. -/
  | done (ending : Ending)

/-- **A command that is not waited for.** -/
structure Job where
  /-- Its slot. -/
  slot : Nat
  /-- The number of its last process. -/
  process : Nat
  /-- The number of its processes. -/
  parts : Nat
  /-- How far it has come. -/
  state : JobState
  /-- Whether its end has been waited for. -/
  waited : Bool := false

/-- The jobs, the last one first. -/
abbrev Jobs := List Job

namespace Jobs

/-- The jobs without one of them. -/
def drop (jobs : Jobs) (slot : Nat) : Jobs := jobs.filter (·.slot ≠ slot)

/-- The jobs with one of them changed. -/
def change (jobs : Jobs) (slot : Nat) (f : Job → Job) : Jobs :=
  jobs.map fun job => if job.slot = slot then f job else job

/-- The job of a slot. -/
def at? (jobs : Jobs) (slot : Nat) : Option Job := jobs.find? (·.slot = slot)

/-- Whether a slot can be used: it is free, or its job has been waited for. -/
def isFree (jobs : Jobs) (slot : Nat) : Bool :=
  match jobs.at? slot with
  | none => true
  | some job => job.waited && job.state matches .done _

/-- **The first slot that can be used.** -/
def freeSlot (jobs : Jobs) : Nat :=
  ((List.range (jobs.length + 1)).map (· + 1)).find? jobs.isFree |>.getD (jobs.length + 1)

/-- The jobs after a slot has been made ready for use. -/
def claim (jobs : Jobs) : Jobs := jobs.drop jobs.freeSlot

/-- **The job that a name stands for**, or why there is none. Without a name it is the current
one. The words of a job are not kept, so a name that asks for words in it fits all or none. -/
def find (jobs : Jobs) (name? : Option Bytes) : Except Bytes Job :=
  let or (job? : Option Job) (complaint : Bytes) : Except Bytes Job :=
    match job? with
    | some job => .ok job
    | none => .error complaint
  match name? with
  | none | some ['%'] | some ['%', '%'] | some ['%', '+'] =>
    or jobs.head? "No current job".toList
  | some ['%', '-'] => or jobs[1]? "No previous job".toList
  | some ['%', '?'] =>
    if 1 < jobs.length then .error "%?: ambiguous".toList
    else or jobs.head? "No such job: %?".toList
  | some name =>
    let slot? := match name with
      | '%' :: digits =>
        if !digits.isEmpty && digits.all Char.isDigit then some (Numeral.value 10 digits) else none
      | _ => none
    or (slot?.bind jobs.at?) ("No such job: ".toList ++ name)

/-- The mark of a job in a list: whether it is the current or the previous one. -/
def mark (jobs : Jobs) (slot : Nat) : Char :=
  if (jobs.head?.map (·.slot)) = some slot then '+'
  else if (jobs[1]?.map (·.slot)) = some slot then '-'
  else ' '

/-- What is said of how far a job has come. -/
def stateText : JobState → Bytes
  | .running _ => "Running".toList
  | .done (.exited status) =>
    if status % 256 = 0 then "Done".toList
    else "Done(".toList ++ Bytes.ofNat (status % 256) ++ [')']
  | .done (.killed signal) => signal.text.toList

/-- **A job as it is listed**; the numbers of its processes are given where they are asked for. -/
def line (jobs : Jobs) (numbers : Bool) (job : Job) : Bytes :=
  let front := '[' :: Bytes.ofNat job.slot ++ "] ".toList ++ [jobs.mark job.slot, ' ']
    ++ (if numbers then Bytes.ofNat (job.process + 1 - job.parts) ++ [' '] else [])
    ++ stateText job.state
  let padded := front ++ List.replicate (max 1 (33 - front.length)) ' '
  padded ++ (List.replicate (job.parts - 1) " | ".toList).flatten ++ ['\n']

end Jobs

end SnapBlocks.Host.Shell
