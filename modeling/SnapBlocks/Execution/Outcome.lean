/-!
# Outcomes of a run

Running a program always ends in an **outcome**: what the program printed, and an
error text if it failed. That the program could not be handed to an interpreter
at all is no different kind of answer but one more error text, whose wording is
that of a `LaunchError`.
-/

namespace SnapBlocks

/-- **What came of running a program.** -/
structure Outcome where
  /-- What the program printed. -/
  stdout : String
  /-- Why the program failed, if it did. -/
  error : Option String
deriving DecidableEq, Repr

namespace Outcome

/-- The outcome of a program that ran to its end. -/
def success (stdout : String) : Outcome := ⟨stdout, none⟩

/-- The outcome of a program that failed. -/
def failure (stdout error : String) : Outcome := ⟨stdout, some error⟩

instance : Inhabited Outcome := ⟨success ""⟩

/-- Whether the program ran to its end. -/
def succeeded (o : Outcome) : Bool := o.error.isNone

end Outcome

/-- **Why a program could not be handed to its interpreter.** Each carries the
system's words for the reason. -/
inductive LaunchError where
  /-- The interpreter could not be started. -/
  | start (interpreter reason : String)
  /-- The interpreter did not take the program. -/
  | send (reason : String)
  /-- The interpreter's output could not be collected. -/
  | collect (reason : String)
deriving DecidableEq, Repr

namespace LaunchError

/-- The system's words for the reason. -/
def reason : LaunchError → String
  | start _ reason | send reason | collect reason => reason

/-- The wording of the error. -/
def message : LaunchError → String
  | start interpreter reason => s!"failed to start `{interpreter}`: {reason}"
  | send reason => s!"failed to send program to the interpreter: {reason}"
  | collect reason => s!"failed to collect interpreter output: {reason}"

/-- The outcome of a program that was not run. -/
def outcome (e : LaunchError) : Outcome := .failure "" e.message

end LaunchError

/-- **Something that runs programs.** It answers every program with an outcome,
and may remember what it ran: `σ` is its memory. -/
abbrev Runner (σ : Type) := String → σ → Outcome × σ

namespace Runner

/-- The runner that prints every program in place of running it. -/
def echo {σ : Type} : Runner σ := fun program memory => (.success program, memory)

/-- The runner that gives prepared outcomes one after another, and then empty ones. -/
def scripted : Runner (List Outcome) := fun _ outcomes =>
  (outcomes.headD (.success ""), outcomes.tail)

/-- **The runner that also keeps every program it was given**, in order. -/
def recording {σ : Type} (run : Runner σ) : Runner (σ × List String) := fun program memory =>
  let (outcome, rest) := run program memory.1
  (outcome, rest, memory.2 ++ [program])

@[simp] theorem recording_fst {σ : Type} (run : Runner σ) (program : String)
    (memory : σ × List String) :
    (run.recording program memory).1 = (run program memory.1).1 := rfl

@[simp] theorem recording_programs {σ : Type} (run : Runner σ) (program : String)
    (memory : σ × List String) :
    (run.recording program memory).2.2 = memory.2 ++ [program] := rfl

end Runner

end SnapBlocks
