import SchemaOutline.Markup

/-!
# Tables

A table has a title, a heading and rows of cells, all of them marked-up text. Every column is as
wide as its longest line; where the columns do not fit the terminal, the widest ones give way. The
heading stands between heavy rules, the rows between light ones, and the title in the middle above
them.
-/

set_option autoImplicit false

namespace SchemaOutline

structure Table where
  title : String
  heading : List String
  rows : List (List String)
deriving Repr, DecidableEq

namespace Table

open Text

/-- The four characters of a rule or of a line of cells. -/
structure Strokes where
  left : Char
  fill : Char
  between : Char
  right : Char

def topRule : Strokes := ⟨'┏', '━', '┳', '┓'⟩
def headingLine : Strokes := ⟨'┃', ' ', '┃', '┃'⟩
def headingRule : Strokes := ⟨'┡', '━', '╇', '┩'⟩
def rowLine : Strokes := ⟨'│', ' ', '│', '│'⟩
def bottomRule : Strokes := ⟨'└', '─', '┴', '┘'⟩

def Strokes.line (strokes : Strokes) (cells : List (List Char)) : List Char :=
  strokes.left :: [strokes.between].intercalate cells ++ [strokes.right]

def Strokes.rule (strokes : Strokes) (widths : List Nat) : List Char :=
  strokes.line (widths.map fun width => List.replicate width strokes.fill)

/-! ## Widths

The widths of columns are those of their cells with a blank on either side. -/

def total (widths : List Nat) : Nat := widths.foldr (· + ·) 0

/-- A quotient, rounded to the nearest number and to the even one of two. -/
def roundedQuotient (n d : Nat) : Nat :=
  let low := n / d
  let rest := 2 * (n % d)
  if rest < d || (rest == d && low % 2 == 0) then low else low + 1

/-- Takes an amount from the columns that share it, from each of them at most `most`. Each gives
its part of what is left, the first ones first. -/
def shareOut (most : Nat) : Nat → Nat → List (Nat × Bool) → List Nat
  | _, _, [] => []
  | amount, sharers, (width, shares) :: rest =>
    if shares then
      let given := min most (roundedQuotient amount sharers)
      (width - given) :: shareOut most (amount - given) (sharers - 1) rest
    else width :: shareOut most amount sharers rest

def narrowed (excess : Nat) (widths : List Nat) : List Nat :=
  let widest := widths.foldr max 0
  let next := (widths.filter (· != widest)).foldr max 0
  let sharers := widths.map (· == widest)
  shareOut (min excess (widest - next)) excess (sharers.count true) (widths.zip sharers)

/-- Narrows columns until they fit; every step takes something away. -/
def fittedWidthsWithin (available : Nat) : Nat → List Nat → List Nat
  | 0, widths => widths
  | fuel + 1, widths =>
    if total widths ≤ available then widths
    else fittedWidthsWithin available fuel (narrowed (total widths - available) widths)

def fittedWidths (available : Nat) (widths : List Nat) : List Nat :=
  fittedWidthsWithin available (total widths) (widths.map (min · available))

def columnWidth (texts : List Styled) : Nat :=
  (texts.map fun text => measuredWidth text.chars).foldr max 0 + 2

/-! ## Lines -/

def cellLines (width : Nat) (cell : Styled) : Except Failure (List (List Char)) := do
  let inner := width - 2
  let lines := (fitted .ellipsis inner cell).map (leftAligned .ellipsis inner)
  lines.forM Markup.checkStyles
  .ok (lines.map (paddedLine inner))

/-- The lines of one row. Cells with fewer lines than others go on with empty ones. -/
def rowLines (strokes : Strokes) (widths : List Nat) (row : List Styled) :
    Except Failure (List (List Char)) := do
  let columns ← (widths.zip row).mapM fun (width, cell) =>
    (cellLines width cell).map fun lines => (width, lines)
  let height := (columns.map fun column => column.2.length).foldr max 0
  .ok ((List.range height).map fun i =>
    strokes.line (columns.map fun (width, lines) => lines.getD i (spaces width)))

def titleLines (width : Nat) (title : Styled) : Except Failure (List (List Char)) := do
  let lines := (fitted .fold width title).map (centred .fold width)
  lines.forM Markup.checkStyles
  .ok (lines.map (clipped Markup.terminalWidth))

def columns (table : Table) : Except Failure (List (List Styled)) :=
  (table.heading.zipIdx).mapM fun (heading, i) =>
    (heading :: table.rows.map fun row => row.getD i "").mapM Markup.parse

def lines (table : Table) : Except Failure (List (List Char)) := do
  let columns ← table.columns
  let borders := columns.length + 1
  let widths := fittedWidths (Markup.terminalWidth - borders) (columns.map columnWidth)
  let title ← titleLines (total widths + borders) (← Markup.parse table.title)
  let rowAt (i : Nat) : List Styled := columns.map fun column => column.getD i ⟨[], []⟩
  let heading ← rowLines headingLine widths (rowAt 0)
  let rows ← (List.range table.rows.length).mapM fun i => rowLines rowLine widths (rowAt (i + 1))
  .ok (title ++ topRule.rule widths :: heading ++ headingRule.rule widths :: rows.flatten
    ++ [bottomRule.rule widths])

def render (table : Table) : Except Failure String :=
  table.lines.map fun lines => String.ofList (lines.flatMap fun line => line ++ ['\n'])

end Table

end SchemaOutline
