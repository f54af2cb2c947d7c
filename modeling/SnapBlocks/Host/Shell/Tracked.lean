import SnapBlocks.Host.Bytes

/-!
# Programs that have been found

The shell keeps in mind where it has found the programs that were called by their names,
and does not look for them again. When it goes to another directory it begins to doubt
what it has found, and looks once more.
-/

namespace SnapBlocks.Host.Shell

/-- **A program that has been found.** -/
structure Tracked where
  /-- The name that it was called by. -/
  name : Bytes
  /-- The path to it. -/
  path : Bytes
  /-- Whether it may be found elsewhere by now. -/
  doubtful : Bool := false
deriving DecidableEq, Repr

/-- **The programs that have been found**, in the order in which they were. -/
abbrev Tracks := List Tracked

namespace Tracks

/-- What is known of a name. -/
def find? (tracks : Tracks) (name : Bytes) : Option Tracked := List.find? (·.name = name) tracks

/-- The path that a name leads to without a doubt. -/
def path? (tracks : Tracks) (name : Bytes) : Option Bytes :=
  ((tracks.find? name).filter (!·.doubtful)).map (·.path)

/-- Forgets a name. -/
def forget (tracks : Tracks) (name : Bytes) : Tracks := tracks.filter (·.name ≠ name)

/-- Keeps in mind where a name has been found. -/
def keep (tracks : Tracks) (name path : Bytes) : Tracks :=
  if (tracks.find? name).isSome then
    tracks.map fun t => if t.name = name then ⟨name, path, false⟩ else t
  else tracks ++ [⟨name, path, false⟩]

/-- Doubts everything. -/
def doubt (tracks : Tracks) : Tracks := tracks.map fun t => { t with doubtful := true }

/-- A number that a name has, by which names are listed. -/
def rank (size : Nat) (name : Bytes) : Nat :=
  (name.foldl (fun sum c => sum + c.toNat) (16 * (name.headD '\x00').toNat)) % size

/-- The paths as they are listed, with a star behind one that is in doubt. -/
def listing (tracks : Tracks) : List Bytes :=
  (tracks.mergeSort fun a b => rank 31 a.name ≤ rank 31 b.name).map fun t =>
    t.path ++ if t.doubtful then ['*'] else []

end Tracks

end SnapBlocks.Host.Shell
