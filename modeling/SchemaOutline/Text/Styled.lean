import SchemaOutline.Text.CellWidth
import SchemaOutline.Text.Split

/-!
# Styled texts

A styled text is a text in which stretches carry styles. What can be done to it keeps the stretches
where their characters are. Styles are kept as they are written; without colours nothing is seen of
them but where one text of the same look ends (`Styled.runs`).
-/

set_option autoImplicit false

namespace SchemaOutline.Text

/-- A style and the part of a text that carries it, by the numbers of characters in front of either
end. -/
structure Stretch where
  start : Nat
  stop : Nat
  style : List Char
deriving Repr, DecidableEq

structure Styled where
  chars : List Char
  stretches : List Stretch
deriving Repr, DecidableEq

namespace Stretch

def moved (stretch : Stretch) (offset : Nat) : Stretch :=
  { stretch with start := stretch.start + offset, stop := stretch.stop + offset }

def between? (stretch : Stretch) (first last : Nat) : Option Stretch :=
  let start := max stretch.start first
  let stop := min stretch.stop last
  if start < stop then some ⟨start - first, stop - first, stretch.style⟩ else none

def within? (stretch : Stretch) (length : Nat) : Option Stretch :=
  if stretch.start < length then some { stretch with stop := min stretch.stop length } else none

end Stretch

namespace Styled

/-- The text between two positions. Stretches without a character there are left out. -/
def part (text : Styled) (first last : Nat) : Styled :=
  ⟨(text.chars.drop first).take (last - first),
    text.stretches.filterMap fun stretch => stretch.between? first last⟩

def partsFrom (text : Styled) (gap : Nat) : Nat → List Nat → List Styled
  | _, [] => []
  | first, length :: rest =>
    text.part first (first + length) :: text.partsFrom gap (first + length + gap) rest

/-- The text taken apart. A text that stays in one piece keeps all of its stretches. -/
def parts (text : Styled) (gap : Nat) (lengths : List Nat) : List Styled :=
  if lengths.length ≤ 1 then [text] else text.partsFrom gap 0 lengths

def lines (text : Styled) : List Styled :=
  text.parts 1 ((splitWhere (· == '\n') text.chars).map List.length)

def append (first second : Styled) : Styled :=
  ⟨first.chars ++ second.chars,
    first.stretches ++ second.stretches.map fun stretch => stretch.moved first.chars.length⟩

def joined (texts : List Styled) : Styled := texts.foldl append ⟨[], []⟩

def first (text : Styled) (length : Nat) : Styled :=
  ⟨text.chars.take length, text.stretches.filterMap fun stretch => stretch.within? length⟩

/-- The text with other characters; if these are fewer, stretches end with them. -/
def withChars (text : Styled) (cs : List Char) : Styled :=
  if cs.length < text.chars.length then ⟨cs, (text.first cs.length).stretches⟩
  else { text with chars := cs }

def extended (text : Styled) (n : Nat) : Styled :=
  ⟨text.chars ++ spaces n, text.stretches.map fun stretch =>
    if text.chars.length ≤ stretch.stop then { stretch with stop := stretch.stop + n }
    else stretch⟩

def isEdge (text : Styled) (position : Nat) : Bool :=
  text.stretches.any fun stretch => stretch.start == position || stretch.stop == position

/-- Characters from a position on, in groups between edges. -/
def runsFrom (text : Styled) : Nat → List Char → List (List Char)
  | _, [] => []
  | position, c :: rest =>
    match text.runsFrom (position + 1) rest with
    | [] => [[c]]
    | run :: runs =>
      if text.isEdge (position + 1) then [c] :: run :: runs else (c :: run) :: runs

def runs (text : Styled) : List (List Char) := text.runsFrom 0 text.chars

theorem flatten_runsFrom (text : Styled) (position : Nat) (cs : List Char) :
    (text.runsFrom position cs).flatten = cs := by
  induction cs generalizing position with
  | nil => simp [runsFrom]
  | cons c rest ih =>
    have hTail := ih (position + 1)
    simp only [runsFrom]
    cases hRuns : text.runsFrom (position + 1) rest with
    | nil => simp_all
    | cons run others =>
      rw [hRuns] at hTail
      by_cases hEdge : text.isEdge (position + 1) = true
      · simpa [hEdge] using hTail
      · simpa [hEdge] using hTail

theorem flatten_runs (text : Styled) : text.runs.flatten = text.chars :=
  flatten_runsFrom text 0 text.chars

end Styled

end SchemaOutline.Text
