import SnapBlocks.Host.Cat

/-!
# Programs beside the shell

The table of the programs that every host has. Each is called with a `Call` and changes
the world.
-/

namespace SnapBlocks.Host

/-- A program that does nothing but end. -/
def trivial (status : Nat) : Program := fun _ w => (w, .exited status)

/-- **The programs beside the shell**, by name. -/
def utilities : List (String × Program) :=
  [("cat", Cat.run), ("true", trivial 0), ("false", trivial 1), ("sleep", trivial 0)]

/-- The names of all programs, the shell's among them. -/
def programNames : List String := ["sh", "dash"] ++ utilities.map (·.1)

end SnapBlocks.Host
