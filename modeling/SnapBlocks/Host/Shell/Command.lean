import SnapBlocks.Host.Shell.Word

/-!
# Commands

What a script says, once it is read. A command knows the line on which it begins,
for complaints. The text of a here-document stands behind the command it belongs to,
often behind the whole line, so a command holds only its number, and the texts are
kept in a table of their own.
-/

namespace SnapBlocks.Host.Shell

/-- **How a redirection changes what a descriptor stands for.** -/
inductive Direction where
  /-- A file is read. -/
  | read
  /-- A file is written. -/
  | write
  /-- A file is written even if it is there and protected. -/
  | overwrite
  /-- A file is written behind what is there. -/
  | append
  /-- A file is read and written. -/
  | update
  /-- Another descriptor is copied, or the descriptor closed. -/
  | copy
deriving DecidableEq, Repr

/-- **A redirection** of a descriptor. -/
inductive Redirection (κ : Type) where
  /-- To a file, or to what another descriptor stands for. -/
  | target (descriptor : Nat) (direction : Direction) (word : List (Piece κ))
  /-- To the text of a here-document. -/
  | document (descriptor number : Nat)

/-- **A case of a choice by patterns.** -/
structure Clause (κ : Type) where
  /-- The patterns, of which one has to match. -/
  patterns : List (List (Piece κ))
  /-- What is done then. -/
  body : κ

/-- The ways to join two commands. -/
inductive Joint where
  /-- The second is run in any case. -/
  | always
  /-- The second is run if the first succeeds. -/
  | onSuccess
  /-- The second is run if the first fails. -/
  | onFailure
deriving DecidableEq, Repr

/-- **A command.** -/
inductive Command where
  /-- No command at all. -/
  | nothing
  /-- Assignments, words and redirections. -/
  | simple (line : Nat) (assignments : List (Bytes × List (Piece Command)))
      (words : List (List (Piece Command)))
      (redirections : List (Redirection Command))
  /-- A command with redirections behind it. -/
  | redirected (line : Nat) (command : Command) (redirections : List (Redirection Command))
  /-- Commands of which each prints what the next one reads. -/
  | pipeline (commands : List Command)
  /-- A command whose success counts as failure. -/
  | negated (command : Command)
  /-- Two commands, one after the other. -/
  | joined (joint : Joint) (first second : Command)
  /-- A command that is not waited for. -/
  | background (command : Command)
  /-- A command in a shell of its own. -/
  | subshell (line : Nat) (command : Command) (redirections : List (Redirection Command))
  /-- A choice between two commands. -/
  | choice (test yes no : Command)
  /-- A loop for as long as the test comes out as it should. -/
  | loop (success : Bool) (test body : Command)
  /-- A loop over words. -/
  | each (line : Nat) (name : Bytes) (words : List (List (Piece Command))) (body : Command)
  /-- A choice by patterns. -/
  | select (line : Nat) (word : List (Piece Command)) (clauses : List (Clause Command))
  /-- The definition of a function. -/
  | function (line : Nat) (name : Bytes) (body : Command)

instance : Inhabited Command := ⟨.nothing⟩

end SnapBlocks.Host.Shell
