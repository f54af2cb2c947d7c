import SnapBlocks.Host.Shell.Machine

/-!
# Commands of the shell and their options

A command that the shell runs itself is a function on the machine. Its options stand in
front of its other arguments: letters behind a hyphen, of which some take an argument. Two
hyphens end them.
-/

namespace SnapBlocks.Host.Shell

/-- **A command of the shell**: from its arguments to its status. -/
abbrev Builtin := List Bytes → Run Nat

namespace Builtin

/-- Whether a letter is an option, and whether it has an argument, which a colon behind
it says. -/
def option? : List Char → Char → Option Bool
  | [], _ => none
  | d :: rest, c => if c = d && d ≠ ':' then some (rest.head? = some ':') else option? rest c

/-- Reads the options of one argument and what they take from the next ones. -/
def optionLetters (letters : List Char) :
    List Char → List Bytes → Run (List (Char × Bytes) × List Bytes)
  | [], rest => return ([], rest)
  | c :: more, rest => do
    match option? letters c with
    | none => Run.raise ("Illegal option -".toList ++ [c])
    | some false =>
      let (options, rest) ← optionLetters letters more rest
      return ((c, []) :: options, rest)
    | some true =>
      match more, rest with
      | [], [] => Run.raise ("No arg for -".toList ++ c :: " option".toList)
      | [], argument :: rest => return ([(c, argument)], rest)
      | _, _ => return ([(c, more)], rest)

/-- Reads the options of no more than `fuel` arguments. -/
def optionsWithin (letters : List Char) :
    Nat → List Bytes → Run (List (Char × Bytes) × List Bytes)
  | 0, arguments => return ([], arguments)
  | _ + 1, ['-', '-'] :: rest => return ([], rest)
  | fuel + 1, ('-' :: c :: more) :: rest => do
    let (options, rest) ← optionLetters letters (c :: more) rest
    let (others, rest) ← optionsWithin letters fuel rest
    return (options ++ others, rest)
  | _, arguments => return ([], arguments)

/-- **Reads options**, each with its argument; and the arguments behind them. -/
def options (letters : String) (arguments : List Bytes) :
    Run (List (Char × Bytes) × List Bytes) :=
  optionsWithin letters.toList arguments.length arguments

/-! ## Printing -/

/-- A text between quotation marks, as the shell would read it. -/
def quoted (text : Bytes) : Bytes :=
  let rec go : Bytes → Bool → Bytes
    | [], single => if single then ['\''] else ['"']
    | c :: rest, true => if c = '\'' then '\'' :: '"' :: c :: go rest false else c :: go rest true
    | c :: rest, false => if c = '\'' then c :: go rest false else '"' :: '\'' :: c :: go rest true
  '\'' :: go text true

end Builtin

end SnapBlocks.Host.Shell
