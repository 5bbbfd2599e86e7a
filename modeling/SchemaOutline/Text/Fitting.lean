import SchemaOutline.Text.Blank
import SchemaOutline.Text.Cluster
import SchemaOutline.Text.Styled

/-!
# Fitting text into columns

A text that is shown in a column has to fit a number of cells. Its lines are broken between words; a
word that is longer than a line is broken where the line is full (`Overflow.fold`) or cut off
behind an ellipsis (`Overflow.ellipsis`). Tabs go to the next multiple of eight cells.
-/

set_option autoImplicit false

namespace SchemaOutline.Text

inductive Overflow where
  | fold
  | ellipsis
deriving Repr, DecidableEq

def endsLine (c : Char) : Bool :=
  (10 ≤ c.toNat && c.toNat ≤ 13) || [0x1c, 0x1d, 0x1e, 0x85, 0x2028, 0x2029].contains c.toNat

def measuredWidth (cs : List Char) : Nat :=
  ((splitWhere endsLine cs).map cells).foldl max 0

/-! ## Tabs -/

/-- Fills up parts that end in tabs; `position` is the number of cells in front of them. -/
def withoutTabsFrom : Nat → List Styled → List Styled
  | _, [] => []
  | position, part :: rest =>
    if part.chars.getLast? == some '\t' then
      let spaced := { part with chars := part.chars.dropLast ++ [' '] }
      let position := position + cells spaced.chars
      let filling := (8 - position % 8) % 8
      spaced.extended filling :: withoutTabsFrom (position + filling) rest
    else part :: withoutTabsFrom (position + cells part.chars) rest

def withoutTabs (line : Styled) : Styled :=
  let pieces := (splitWhere (· == '\t') line.chars).map List.length
  if pieces.length ≤ 1 then line
  else
    let last := pieces.getLast?.toList.filter (· != 0)
    let lengths := pieces.dropLast.map (· + 1) ++ last
    Styled.joined (withoutTabsFrom 0 (line.partsFrom 0 0 lengths))

/-! ## Words -/

def wordsFrom : List Char → List (List Char)
  | [] => []
  | c :: rest =>
    match wordsFrom rest with
    | [] => [[c]]
    | word :: words =>
      if !isSpacing c || word.head?.any isSpacing then (c :: word) :: words
      else [c] :: word :: words

/-- The words of a text with the blanks behind them; blanks at the start belong to the first one.
A text of blanks alone is one word. -/
def words (cs : List Char) : List (List Char) :=
  let blanks := cs.takeWhile isSpacing
  match wordsFrom (cs.drop blanks.length) with
  | [] => if blanks.isEmpty then [] else [blanks]
  | word :: words => (blanks ++ word) :: words

/-! ## Lines -/

structure Breaking where
  done : List (List Char)
  line : List Char
  used : Nat

/-- Puts a piece on a line of its own, or on the current one if nothing stands there. -/
def Breaking.onNewLine (breaking : Breaking) (piece : List Char) : Breaking :=
  if breaking.line.isEmpty then { breaking with line := piece, used := cells piece }
  else ⟨breaking.done ++ [breaking.line], piece, cells piece⟩

def Breaking.add (overflow : Overflow) (width : Nat) (breaking : Breaking) (word : List Char) :
    Breaking :=
  let size := cells (trimEnd isSpacing word)
  if breaking.used + size ≤ width then
    { breaking with line := breaking.line ++ word, used := breaking.used + cells word }
  else if width < size && overflow == .fold then
    (folded width word).foldl Breaking.onNewLine breaking
  else breaking.onNewLine word

def broken (overflow : Overflow) (width : Nat) (line : List Char) : List (List Char) :=
  let breaking := (words line).foldl (Breaking.add overflow width) ⟨[], [], 0⟩
  breaking.done ++ [breaking.line]

/-- Without blanks at the end that stand beyond a number of characters. -/
def withoutExcessBlanks (width : Nat) (line : Styled) : Styled :=
  let length := line.chars.length
  let blanks := length - (trimEnd isSpacing line.chars).length
  let excess := min blanks (length - width)
  if excess == 0 then line else line.first (length - excess)

def truncated (overflow : Overflow) (width : Nat) (line : Styled) : Styled :=
  if cells line.chars ≤ width then line
  else
    match overflow with
    | .fold => line.withChars (sized width line.chars)
    | .ellipsis => line.withChars (sized (width - 1) line.chars ++ ['…'])

def fitted (overflow : Overflow) (width : Nat) (text : Styled) : List Styled :=
  text.lines.flatMap fun line =>
    let line := withoutTabs line
    let lengths := (broken overflow width line.chars).map List.length
    (line.parts 0 lengths).map fun part => withoutExcessBlanks width part

def leftAligned (overflow : Overflow) (width : Nat) (line : Styled) : Styled :=
  let missing := width - cells line.chars
  let line := truncated overflow width line
  { line with chars := line.chars ++ spaces missing }

/-- A line in the middle of a column; the smaller half of the free cells goes before it. -/
def centred (overflow : Overflow) (width : Nat) (line : Styled) : Styled :=
  let line := truncated overflow width (line.withChars (trimEnd isSpacing line.chars))
  let before := spaces ((width - cells line.chars) / 2)
  let chars := before ++ line.chars
  ⟨chars ++ spaces (width - cells chars),
    line.stretches.map fun stretch => stretch.moved before.length⟩

/-! ## Runs -/

def croppedRuns : Nat → List (List Char) → List (List Char)
  | _, [] => []
  | width, run :: rest =>
    if cells run < width then run :: croppedRuns (width - cells run) rest else [sized width run]

def runCells (runs : List (List Char)) : Nat := runs.foldr (fun run n => cells run + n) 0

/-- Runs that take exactly a number of cells: what is missing is added as a run of its own, and what
is too much is cut off. Characters do not act on those of other runs, so that the cells of a line
may be more than those of its whole text. -/
def exactRuns (width : Nat) (runs : List (List Char)) : List (List Char) :=
  if width < runCells runs then croppedRuns width runs
  else if runCells runs < width then runs ++ [spaces (width - runCells runs)]
  else runs

def clipped (width : Nat) (line : Styled) : List Char :=
  if width < runCells line.runs then (croppedRuns width line.runs).flatten else line.chars

def paddedLine (width : Nat) (line : Styled) : List Char :=
  (exactRuns (width + 2) ([' '] :: exactRuns width line.runs ++ [[' ']])).flatten

end SchemaOutline.Text
