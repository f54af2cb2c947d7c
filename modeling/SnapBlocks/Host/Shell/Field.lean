import SnapBlocks.Host.Shell.Pattern

/-!
# Fields

When a word is expanded, what comes out is a row of **stretches**. The characters of
the word itself make stretches that are not split; what it stands for makes stretches
that are. Blanks that split fields do so together, and any other character splits on its
own, with the blanks around it, but only as far as one stretch goes: the next one begins
anew. All parameters together are a stretch that is split nowhere but between them.

The words of a line that is read are split in the same way, but only as many as there
are variables for; the last variable gets the rest of the line.
-/

namespace SnapBlocks.Host.Shell

/-- **What an expansion gives.** -/
inductive Cell where
  /-- A character. -/
  | char (c : Char) (quoted : Bool)
  /-- A quotation mark, which makes a field of nothing. -/
  | mark
  /-- The end of a parameter. -/
  | gap
deriving DecidableEq, Repr

/-- **A field**, of whose characters it is known whether they were quoted. -/
abbrev Field := List Pattern.Marked

/-- The text of a field. -/
def Field.text (f : Field) : Bytes := f.map (·.2)

/-- The blanks among the characters that split fields. -/
def isFieldBlank (c : Char) : Bool := c = ' ' || c = '\t' || c = '\n'

namespace Cell

/-- The text of some cells. -/
def text (cells : List Cell) : Bytes :=
  cells.filterMap fun cell => match cell with
    | .char c _ => some c
    | .mark | .gap => none

/-- The characters of some cells, with their quotation. -/
def marked (cells : List Cell) : Field :=
  cells.filterMap fun cell => match cell with
    | .char c quoted => some (quoted, c)
    | .mark | .gap => none

/-- A text whose characters are all alike. -/
def ofText (quoted : Bool) (text : Bytes) : List Cell := text.map (.char · quoted)

end Cell

/-- **Where a stretch is split.** -/
inductive Splits where
  /-- Nowhere. -/
  | never
  /-- Between parameters. -/
  | atGaps
  /-- At the characters that split fields, too. -/
  | everywhere
  /-- Like that; and a stretch of this kind behind it belongs to it. -/
  | joined
deriving DecidableEq, Repr

/-- **A part of an expanded word** that is split as one. -/
structure Stretch where
  /-- Where it is split. -/
  splits : Splits
  /-- What it is made of. -/
  cells : List Cell
deriving DecidableEq, Repr

namespace Stretch

/-- The cells of some stretches. -/
def row (stretches : List Stretch) : List Cell := stretches.flatMap (·.cells)

/-- The text of some stretches. -/
def text (stretches : List Stretch) : Bytes := Cell.text (row stretches)

/-- The characters of some stretches, with their quotation. -/
def marked (stretches : List Stretch) : Field := Cell.marked (row stretches)

/-- A stretch in front of others, of which the first may belong to it. -/
def cons (s : Stretch) : List Stretch → List Stretch
  | [] => [s]
  | next :: rest =>
    if s.splits = next.splits && (s.splits = .joined || s.splits = .never) then
      { s with cells := s.cells ++ next.cells } :: rest
    else s :: next :: rest

/-- **Some stretches with those made one that belong together.** From then on each
stands for itself. -/
def settle (stretches : List Stretch) : List Stretch :=
  (stretches.foldr cons []).map fun s =>
    { s with splits := if s.splits = .joined then .everywhere else s.splits }

end Stretch

/-! ## Splitting -/

/-- **How far some stretches have been split.** -/
structure Splitting where
  /-- The fields, last first, each with its last cell first. -/
  done : List (List Cell) := []
  /-- The field in the making, last cell first. -/
  current : List Cell := []
  /-- Whether blanks are passed over that belong to what ended the last field. -/
  passing : Bool := false
  /-- The number of fields that are still to be made, if there are not to be more. -/
  left : Option Nat := none
  /-- The last field without the characters that end it, as far as they do. -/
  cut : Option (List Cell) := none
  /-- Where the last stretch was split, if there was one. -/
  last : Option Splits := none

namespace Splitting

/-- Goes on by a cell of the last field, which goes to the end. -/
def rest (s : Splitting) (cell : Cell) (splits blank : Bool) : Splitting :=
  let longer := { s with current := cell :: s.current }
  if blank then { longer with cut := s.cut <|> some s.current }
  else { longer with passing := false, cut := if splits && s.passing then s.cut else none }

/-- Goes on by a cell at which fields are split. -/
def split (s : Splitting) (cell : Cell) (passing : Bool) : Splitting :=
  if s.current.isEmpty && passing then s
  else if s.left = some 1 then
    { s with left := some 0, cut := some s.current, current := cell :: s.current, passing }
  else { s with done := s.current :: s.done, current := [], left := s.left.map (· - 1), passing }

/-- **Goes on by one cell** of a stretch. `separators` are the characters that split fields.
Behind parameters that are kept apart no blanks are passed over. -/
def step (separators : Bytes) (behindGaps onlyGaps : Bool) (s : Splitting) (cell : Cell) :
    Splitting :=
  let (splits, blank) := match cell with
    | .gap => (true, true)
    | .mark => (false, false)
    | .char c _ =>
      let splits := !onlyGaps && separators.contains c
      (splits, splits && isFieldBlank c)
  if s.left = some 0 then s.rest cell splits blank
  else if s.passing then
    if blank then s
    else if splits then { s with passing := false }
    else { s with current := [cell], passing := false }
  else if splits then s.split cell (blank && !behindGaps && !onlyGaps)
  else { s with current := cell :: s.current }

/-- **Goes on by one stretch.** -/
def stretch (separators : Bytes) (s : Splitting) (next : Stretch) : Splitting :=
  if next.splits = .never then { s with current := next.cells.reverse ++ s.current }
  else
    let step := step separators (s.last = some .atGaps) (next.splits = .atGaps)
    { next.cells.foldl step { s with passing := false } with last := some next.splits }

/-- All fields. A field of nothing is one only behind parameters that are kept apart. -/
def finish (s : Splitting) : List (List Cell) :=
  let current := if s.last = some .atGaps then s.current else s.cut.getD s.current
  let all := if s.last = some .atGaps || !current.isEmpty then current :: s.done else s.done
  all.reverse.map List.reverse

end Splitting

/-- **The fields of some stretches.** -/
def fields (separators : Bytes) (stretches : List Stretch) : List Field :=
  ((stretches.foldl (Splitting.stretch separators) {}).finish).map Cell.marked

/-- **The words of a line for a number of variables.** -/
def share (separators : Bytes) (count : Nat) (line : List Stretch) : List Bytes :=
  ((line.foldl (Splitting.stretch separators) { left := some count }).finish).map Cell.text

end SnapBlocks.Host.Shell
