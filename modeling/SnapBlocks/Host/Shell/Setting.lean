import SnapBlocks.Host.Shell.Machine

/-!
# The settings of the shell

Most of what can be set is set by a letter, and all of it by a name. The shell knows its
settings by their letters. Two of them have none that could be written: what they are
known by is no byte.
-/

namespace SnapBlocks.Host.Shell

namespace Builtin

/-- The settings: their names and letters. -/
def settings : List (String × Char) :=
  [("errexit", 'e'), ("noglob", 'f'), ("ignoreeof", 'I'), ("interactive", 'i'), ("monitor", 'm'),
    ("noexec", 'n'), ("stdin", 's'), ("xtrace", 'x'), ("verbose", 'v'), ("vi", 'V'), ("emacs", 'E'),
    ("noclobber", 'C'), ("allexport", 'a'), ("notify", 'b'), ("nounset", 'u'), ("privileged", 'p'),
    ("nolog", 'ℓ'), ("debug", 'δ')]

/-- Jobs can not be controlled, since there is no terminal to control them from. -/
def refuseControl : Run Unit := Run.complain "can't access tty; job control turned off".toList

/-- Makes a setting or takes it back. -/
def setFlag (on : Bool) (letter : Char) : Run Unit := do
  if on && letter = 'm' then refuseControl
  else modify fun m =>
    let others := m.flags.filter (· ≠ letter)
    { m with flags := if on then letter :: others else others }

/-- Makes the setting that a letter stands for or takes it back. Of the two ways to write lines
one takes the place of the other. -/
def setLetter (on : Bool) (letter : Char) : Run Unit := do
  if !settings.any (·.2 = letter) then Run.raise ("Illegal option -".toList ++ [letter])
  setFlag on letter
  if on && letter = 'V' then setFlag false 'E'
  if on && letter = 'E' then setFlag false 'V'

/-- The settings in words, or as commands that make them. -/
def settingLines (words : Bool) (isOn : Char → Bool) : Bytes :=
  let line (name : String) (on : Bool) : Bytes :=
    if words then
      name.toList ++ List.replicate (16 - name.length) ' '
        ++ (if on then "on\n" else "off\n").toList
    else (if on then "set -o " else "set +o ").toList ++ name.toList ++ ['\n']
  (if words then "Current option settings\n".toList else [])
    ++ (settings.map fun (name, letter) => line name (isOn letter)).flatten

/-- Makes a setting by its name or takes it back, or lists all of them. -/
def setNamed (on : Bool) (isOn : Char → Bool) (name? : Option Bytes) : Run Unit := do
  match name? with
  | none => Run.say (settingLines on isOn)
  | some name =>
    match settings.find? fun (full, _) => full.toList = name with
    | some (_, letter) => setFlag on letter
    | none => Run.raise ("Illegal option -o ".toList ++ name)

end Builtin

end SnapBlocks.Host.Shell
