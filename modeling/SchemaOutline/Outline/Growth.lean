import SchemaOutline.Outline.Expansion
import SchemaOutline.Outline.Gate

/-!
# Growing an outline

An outline grows depth first: a fragment is summarised under a fresh identifier, the gate is asked,
the entry and its record are added, and then everything in the fragment's expansion is visited one
level further down. A visit that fails stops there and keeps what it has added. Drawing a document
is growing the empty outline from its root (`Outline.draw`).
-/

set_option autoImplicit false

namespace SchemaOutline

/-- An outline under construction, with what is left of the identifiers and what the gate knows. -/
structure Growth (σ : Type) where
  outline : Outline
  ids : IdSource
  gate : σ

/-- Steps of growth; a failure keeps the state that was reached. -/
abbrev Growing (σ : Type) := ExceptT Failure (StateM (Growth σ))

namespace Growth

variable {σ : Type}

def above (parent : Option Int) : Growing σ (Option Entry) := do
  match parent with
  | none => return none
  | some index => return some (← (← get).outline.entry index)

def freshId : Growing σ String :=
  modifyGet fun g => (g.ids.peek, { g with ids := g.ids.next })

def isAdmitted (gate : Gate σ) (summary : Summary) (above : Option Entry) (level : Int) :
    Growing σ Bool :=
  modifyGet fun g =>
    let (admitted, s) := gate.judge g.gate summary above level
    (admitted, { g with gate := s })

def place (summary : Summary) (parent : Option Int) (level : Int) (location : Location) :
    Growing σ Nat := do
  let index ← fun g =>
    let (index, outline) := g.outline.append summary.id parent level
    (index, { g with outline := outline })
  let outline ← (← get).outline.addRecord summary.id ⟨summary, location⟩
  modify fun g => { g with outline := outline }
  return index

def expand (index : Nat) : Growing σ Unit := do
  let outline ← (← get).outline.expand index
  modify fun g => { g with outline := outline }

/-- Adds the entries of a fragment and of all that is below it. Every level takes up room, and so
does every array that is expanded in place on the way. -/
def visit (gate : Gate σ) (room : Nat) (parent : Option Int) (level : Int) (location : Location)
    (value inherited : Json) : Growing σ Unit :=
  match value with
  | .obj fragment =>
    if room < callsPerEntry then throw .tooDeep
    else do
      let above ← above parent
      let id ← freshId
      let summary ← Summary.ofFragment id fragment inherited
      if ← isAdmitted gate summary above level then
        let index ← place summary parent level location
        let expansion ← Expansion.ofSummary (room - callsPerEntry) summary
        if expansion.expandable then expand index
        expansion.descents.forM fun descent =>
          visit gate (expansion.roomBelow (room - callsPerEntry)) (some index) (level + 1)
            (location ++ descent.steps) descent.value descent.inherited
  | _ => return
termination_by room
decreasing_by
  exact Expansion.roomBelow_lt ‹_› _

/-- Adds the entries of a fragment with a given room for calls. -/
def growWithin (room : Nat) (gate : Gate σ) (g : Growth σ) (parent : Option Int) (level : Int)
    (location : Location) (fragment : Json) : Except Failure Unit × Growth σ :=
  (visit gate room parent level location fragment .null).run.run g

def grow (gate : Gate σ) (g : Growth σ) (parent : Option Int) (level : Int) (location : Location)
    (fragment : Json) : Except Failure Unit × Growth σ :=
  growWithin callLimit gate g parent level location fragment

end Growth

namespace Outline

def drawWithin {σ : Type} (room : Nat) (gate : Gate σ) (start : σ) (ids : IdSource)
    (document : Json) : Except Failure Outline × Growth σ :=
  match Growth.growWithin room gate ⟨empty, ids, start⟩ none 0 [] document with
  | (.ok _, g) => (.ok g.outline, g)
  | (.error failure, g) => (.error (drawingFailure failure), g)

def draw {σ : Type} (gate : Gate σ) (start : σ) (ids : IdSource) (document : Json) :
    Except Failure Outline × Growth σ :=
  drawWithin callLimit gate start ids document

end Outline

end SchemaOutline
