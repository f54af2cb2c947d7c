import SnapBlocks.Host.Numeral

/-!
# Limits

The system limits what a process can use. For each **resource** there are two limits: the
one that holds, and the one that it can be raised to. The latter can be lowered for good,
but not be raised. A process hands its limits on to those that it starts.
-/

namespace SnapBlocks.Host

/-- **What is limited.** -/
structure Resource where
  /-- The letter that it is known by. -/
  letter : Char
  /-- What it is, and the unit that it is counted in. -/
  title : String
  /-- The size of the unit. -/
  unit : Nat

/-- A number that may be without bounds. -/
abbrev Bound := Option Nat

/-- **The limits of a resource.** -/
structure Limit where
  /-- The limit that holds. -/
  soft : Bound
  /-- What it can be raised to. -/
  hard : Bound

/-- The limits of all resources, by letter. -/
abbrev Limits := List (Char × Limit)

namespace Resource

/-- **All resources.** -/
def all : List Resource :=
  [⟨'t', "time(seconds)", 1⟩, ⟨'f', "file(blocks)", 512⟩, ⟨'d', "data(kbytes)", 1024⟩,
    ⟨'s', "stack(kbytes)", 1024⟩, ⟨'c', "coredump(blocks)", 512⟩, ⟨'m', "memory(kbytes)", 1024⟩,
    ⟨'l', "locked memory(kbytes)", 1024⟩, ⟨'p', "process", 1⟩, ⟨'n', "nofiles", 1⟩,
    ⟨'v', "vmemory(kbytes)", 1024⟩, ⟨'w', "locks", 1⟩, ⟨'r', "rtprio", 1⟩]

/-- The resource of a letter. -/
def ofLetter? (letter : Char) : Option Resource := all.find? (·.letter = letter)

end Resource

namespace Limits

/-- The limits that processes start with. -/
def standard : Limits :=
  [('s', ⟨some 8388608, none⟩), ('c', ⟨some 0, none⟩), ('l', ⟨some 8388608, some 8388608⟩),
    ('p', ⟨some 128604, some 128604⟩), ('n', ⟨some 20000, some 20000⟩), ('r', ⟨some 0, some 0⟩)]

/-- The limits of a resource. -/
def get (limits : Limits) (letter : Char) : Limit := (limits.lookup letter).getD ⟨none, none⟩

/-- Whether a number is not above another. -/
def within (a b : Bound) : Bool :=
  match a, b with
  | _, none => true
  | none, some _ => false
  | some m, some n => m ≤ n

/-- **Sets the limits of a resource**, or says why that can not be. -/
def set (limits : Limits) (letter : Char) (new : Limit) : Except String Limits :=
  if !within new.soft new.hard then .error "Invalid argument"
  else if !within new.hard (limits.get letter).hard then .error "Operation not permitted"
  else .ok ((letter, new) :: limits.filter (·.1 ≠ letter))

end Limits

end SnapBlocks.Host
