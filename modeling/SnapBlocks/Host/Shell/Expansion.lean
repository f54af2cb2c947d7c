import SnapBlocks.Host.Shell.Machine
import SnapBlocks.Host.Shell.Arithmetic

/-!
# Expansion

A word is expanded to stretches, its pieces one after another. From the stretches come
either fields, which may then turn out to be patterns for names of files, or a single text.

Operands are expanded only if they are needed, because commands in them would be run.
-/

namespace SnapBlocks.Host.Shell

/-- **How a word is expanded.** -/
structure Manner where
  /-- Whether fields are made of it. -/
  splits : Bool
  /-- Whether it is an operand, whose characters may be split like those of a value. -/
  operand : Bool := false
  /-- Whether a tilde stands for a directory also behind a colon. -/
  colons : Bool := false

/-! ## Tildes -/

/-- The text of pieces up to one that ends the name behind a tilde; nothing if something in
it is quoted or no text. -/
def tildeName (colons : Bool) : Word Command → Option (Bytes × Word Command)
  | [] => some ([], [])
  | .text false c :: rest =>
    if c = '/' || colons && c = ':' then some ([], .text false c :: rest)
    else (tildeName colons rest).map fun (name, rest) => (c :: name, rest)
  | _ => none

/-- The directory of a user. -/
def userDirectory? (home : Option Bytes) (name : Bytes) : Option Bytes :=
  if name.isEmpty then home
  else if name = "root".toList then some "/root".toList
  else none

/-- **A word in which tildes have been replaced** by the directories that they stand for, at
its beginning and perhaps behind colons. -/
def untilde (home : Option Bytes) (colons : Bool) : Nat → Bool → Word Command → Word Command
  | 0, _, w => w
  | _ + 1, _, [] => []
  | fuel + 1, true, .text false '~' :: rest =>
    match tildeName colons rest with
    | some (name, behind) =>
      match userDirectory? home name with
      | some directory => directory.map (.text true) ++ untilde home colons fuel false behind
      | none => .text false '~' :: untilde home colons fuel false rest
    | none => .text false '~' :: untilde home colons fuel false rest
  | fuel + 1, _, .text false ':' :: rest => .text false ':' :: untilde home colons fuel colons rest
  | fuel + 1, _, piece :: rest => piece :: untilde home colons fuel false rest

/-! ## Parameters -/

/-- The options as they are printed, in this order. -/
def flagOrder : List Char := "pubaCEVvxsnmiIfe".toList

namespace Machine

/-- **The value of a parameter**, if it is not all parameters at once. -/
def parameter? (m : Machine) (name : Bytes) : Option Bytes :=
  match name with
  | ['?'] => some (Bytes.ofNat m.status)
  | ['#'] => some (Bytes.ofNat m.positional.length)
  | ['$'] => some (Bytes.ofNat m.number)
  | ['!'] => m.background.map Bytes.ofNat
  | ['-'] => some (flagOrder.filter m.has)
  | ['0'] => some m.name
  | c :: _ =>
    if c.isDigit then
      match Numeral.value 10 name with
      | 0 => some m.name
      | n + 1 => m.positional[n]?
    else m.value? name
  | [] => none

/-- What stands between parameters that are made one text. -/
def joiner (m : Machine) : Bytes :=
  match m.value? "IFS".toList with
  | some separators => separators.take 1
  | none => [' ']

end Machine

namespace Run

/-- All parameters as one text. -/
def joined : Run Bytes := do
  let m ← get
  return Bytes.join m.joiner m.positional

/-- Whether a parameter is all parameters at once. -/
def isAll (name : Bytes) : Bool := name = ['@'] || name = ['*']

/-- Whether the texts of all parameters are kept apart. -/
def keepsApart (manner : Manner) (quoted : Bool) (name : Bytes) : Bool :=
  isAll name && manner.splits && !(quoted && name = ['*'])

/-- Texts that are kept apart. -/
def apartCells (quoted : Bool) (texts : List Bytes) : List Cell :=
  [Cell.gap].intercalate (texts.map (Cell.ofText quoted))

/-- The complaint about a parameter without a value, in its own words if there are any. -/
def unset {α : Type} (name : Bytes) (emptyToo : Bool) (message : Option Bytes) : Run α :=
  let text := message.getD <|
    if emptyToo then "parameter not set or null".toList else "parameter not set".toList
  raise (name ++ ": ".toList ++ text)

section

variable (inside : Manner → Word Command → Run (List Stretch))

/-- An operand as one text. -/
def operandText (operand : Word Command) : Run Bytes := do
  return Stretch.text (← inside { splits := false, operand := true } operand)

/-- **What a parameter gives.** -/
def valueStretches (manner : Manner) (quoted : Bool) (name : Bytes) (t : Treatment)
    (emptyToo : Bool) (operand : Word Command) : Run (List Stretch) := do
  let m ← get
  let value? ← if isAll name then some <$> joined else pure (m.parameter? name)
  let apart := keepsApart manner quoted name
  let isEmpty (value : Bytes) : Bool := value.isEmpty && !(apart && 1 < m.positional.length)
  let present := match value? with
    | none => false
    | some value => !(emptyToo && isEmpty value)
  let splits : Splits := if !quoted then .everywhere
    else if name = ['@'] && !m.positional.isEmpty then .atGaps
    else .never
  let stretch (cells : List Cell) : List Stretch := [⟨splits, cells⟩]
  let plain (text : Bytes) : List Stretch := stretch (Cell.ofText quoted text)
  let cells : Run (List Stretch) := match value? with
    | none => return []
    | some value => return if apart then stretch (apartCells quoted m.positional) else plain value
  let cut (f : Pattern → List Bytes → List Bytes) (value : Bytes) : Run (List Stretch) := do
    let pattern := Pattern.ofMarked
      (Stretch.marked (← inside { splits := false, operand := true } operand))
    let isRow := quoted || (m.value? "IFS".toList).isSome
    if apart && isRow && !m.positional.isEmpty then
      return stretch (apartCells quoted (f pattern m.positional))
    else return plain ((f pattern [value]).headD [])
  let known : Run Bytes := do
    match value? with
    | some value => return value
    | none => if m.has 'u' then unset name false none else return []
  match t with
  | .malformed => raise "Bad substitution".toList
  | .plain => do
    if emptyToo && !present && m.has 'u' then unset name false none
    let _ ← known
    let these ← if emptyToo && !present then pure [] else cells
    return these ++ (← inside manner operand)
  | .length => return plain (Bytes.ofNat (← known).length)
  | .orElse => if present then cells else inside { manner with operand := true } operand
  | .instead =>
    if present then inside { manner with operand := true } operand else return stretch []
  | .orAssign =>
    if present then cells
    else
      let text ← operandText inside operand
      assignChecked name text
      return plain text
  | .orFail =>
    if present then cells
    else if operand.isEmpty then unset name emptyToo none
    else unset name emptyToo (some (← operandText inside operand))
  | .cutEnd longest =>
    let text ← known
    if value?.isNone then return [] else cut (Pattern.cutEnd · longest) text
  | .cutStart longest =>
    let text ← known
    if value?.isNone then return [] else cut (Pattern.cutStart · longest) text

/-- **The value of an arithmetic expression.** -/
def arithmetic (expression : Word Command) : Run Bytes := do
  let text := Stretch.text (← inside { splits := false } expression)
  let m ← get
  let (result, known) := Arithmetic.evaluate m.value? text
  known.forM fun (name, n) => assign name (Bytes.ofInt n)
  match result with
  | .ok n => return Bytes.ofInt n
  | .error fault => raise (fault.message text)

/-- **What a command prints**, without the line feeds at its end. -/
def output (c : Command) : Run Bytes := do
  match c with
  | .nothing => return []
  | _ =>
    let before ← get
    let (world, sink) := before.world.addSink
    set { before with world }
    enclosed do
      point 1 (some (.sink sink))
      command c { last := true }
    modify fun m => { m with status := before.status, outputStatus := m.status }
    let text := ((← get).world.written sink).filter (· ≠ '\x00')
    return (text.reverse.dropWhile (· = '\n')).reverse

/-- What a text gives that a piece stands for. -/
def textStretch (quoted : Bool) (text : Bytes) : List Stretch :=
  [⟨if quoted then .never else .everywhere, Cell.ofText quoted text⟩]

/-- What a piece gives. -/
def pieceStretches (manner : Manner) : Piece Command → Run (List Stretch)
  | .text quoted c =>
    return [⟨if manner.operand && !quoted then .joined else .never, [.char c quoted]⟩]
  | .mark => return [⟨.never, [.mark]⟩]
  | .value quoted name t emptyToo operand =>
    valueStretches inside manner quoted name t emptyToo operand
  | .output quoted c => return textStretch quoted (← output c)
  | .number quoted expression => return textStretch quoted (← arithmetic inside expression)

end

/-- Whether a piece is the last one of its word that counts. -/
def isLast : Piece Command → Bool
  | .value _ _ .plain true _ => true
  | _ => false

/-- **What a word gives**, whose operands are nested no deeper than `depth`. -/
def stretches : Nat → Manner → Word Command → Run (List Stretch)
  | 0, _, _ => return []
  | depth + 1, manner, w => do
    let home := (← get).value? "HOME".toList
    let pieces := untilde home manner.colons w.length true w
    let counted := pieces.takeWhile (fun piece => !isLast piece) ++ (pieces.find? isLast).toList
    let parts ← counted.mapM (pieceStretches (stretches depth) manner)
    return Stretch.settle parts.flatten

/-- The depth to which operands can be nested. -/
def operandDepth : Nat := 1000

/-- **The text of a word** of which no fields are made. -/
def textOf (w : Word Command) : Run Bytes := do
  return Stretch.text (← stretches operandDepth { splits := false } w)

/-- The text of a word that is assigned. -/
def assignedText (w : Word Command) : Run Bytes := do
  return Stretch.text (← stretches operandDepth { splits := false, colons := true } w)

/-- **The pattern of a word.** -/
def patternOf (w : Word Command) : Run Pattern := do
  return Pattern.ofMarked (Stretch.marked (← stretches operandDepth { splits := false } w))

/-! ## Names of files -/

/-- The parts of a field between slashes. -/
def parts (f : Field) : List Field :=
  f.foldr (fun c parts =>
    if c.2 = '/' then [] :: parts
    else match parts with
      | [] => [[c]]
      | part :: rest => (c :: part) :: rest) [[]]

/-- Whether a pattern matches a name; a dot in front has to be in the pattern as well. -/
def matchesName (part : Field) (name : Bytes) : Bool :=
  (name.head? ≠ some '.' || (part.head?.map (·.2)) = some '.')
    && (Pattern.ofMarked part).matches? name

/-- The names of files that the rest of a field stands for, behind those found so far. -/
def names (files : Files) : List Field → List (Place × Bytes) → List (Place × Bytes)
  | [], found => found
  | part :: rest, found =>
    let last := rest.isEmpty
    let mark (text : Bytes) : Bytes := if last then text else text ++ ['/']
    names files rest <| found.flatMap fun (named, text) =>
      let place := files.follow named
      if part.isEmpty then
        if files.node? place = some .directory then [(place, mark text)] else []
      else if Pattern.isPlain part then
        match files.locate place (Field.text part) with
        | .ok next =>
          if (files.node? next).isSome then [(next, mark (text ++ Field.text part))] else []
        | .error _ => []
      else if files.node? place = some .directory then
        let all := [(['.'], place), (['.', '.'], place.dropLast)]
          ++ (files.children place).map fun name => (name, place ++ [name])
        (all.filter fun (name, _) => matchesName part name).map fun (name, next) =>
          (next, mark (text ++ name))
      else []

/-- Whether one text comes before another, or is the same. -/
def notAfter (a b : Bytes) : Bool := !(decide (b < a))

/-- **The texts that a field stands for**: the names of files that it matches, or else itself. -/
def matching (f : Field) : Run (List Bytes) := do
  let m ← get
  if m.has 'f' || Pattern.isPlain f then return [Field.text f]
  let start : Place := if (f.head?.map (·.2)) = some '/' then [] else m.place
  let found := (names m.world.files (parts f) [(start, [])]).map (·.2)
  return if found.isEmpty then [Field.text f] else found.mergeSort notAfter

/-- **The fields of a word.** -/
def fieldsOf (w : Word Command) : Run (List Bytes) := do
  let parts ← stretches operandDepth { splits := true } w
  let found ← (fields (← get).separators parts).mapM matching
  return found.flatten

end Run

end SnapBlocks.Host.Shell
