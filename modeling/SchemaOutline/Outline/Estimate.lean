import SchemaOutline.Failure
import SchemaOutline.Fragment

/-!
# Estimates

Before a document is drawn its entries are counted on the raw fragments, without summaries, and the
counting may stop as soon as a limit is exceeded. A second look finds out whether an `allOf` list
occurs anywhere, telling keywords from property names and from plain data.
-/

set_option autoImplicit false

namespace SchemaOutline

/-- The values directly below a fragment, found through some arrays. -/
structure Held where
  values : List Json
  arrays : Nat
deriving Repr, DecidableEq

/-- The room for counting what is held, out of the room that there was for the fragment. -/
def Held.roomBelow (held : Held) (room : Nat) : Nat := room - callsInPlace * held.arrays

theorem Held.roomBelow_lt {room : Nat} (h : ¬ room < callsPerCount) (held : Held) :
    held.roomBelow (room - callsPerCount) < room := by
  simp only [roomBelow, callsPerCount] at *
  omega

namespace Fragment

/-- What a fragment holds. A single schema for all items is looked through, in as many arrays as
there is room for. -/
def held (room : Nat) (fragment : Members) : Except Failure Held :=
  match combiner? fragment with
  | some c =>
    let branches := (fragment.get c.keyword).items?.getD []
    .ok ⟨branches.map fun branch => branch.inheriting (fragment.get "type"), 0⟩
  | none =>
    match structuralKind fragment with
    | .array =>
      match fragment.get "items" with
      | .arr items => .ok ⟨items, 0⟩
      | .obj inner =>
        if room < callsInPlace then .error .tooDeep
        else
          (held (room - callsInPlace) inner).map fun found =>
            { found with arrays := found.arrays + 1 }
      | _ => .ok ⟨[], 0⟩
    | .object =>
      let entries (keyword : String) := ((fragment.get keyword).members?.getD []).values
      .ok ⟨entries "properties" ++ entries "patternProperties", 0⟩
    | _ => .ok ⟨[], 0⟩
termination_by room
decreasing_by
  exact sub_callsInPlace_lt ‹_›

end Fragment

namespace Estimate

def exceeds (limit : Option Int) (total : Nat) : Bool :=
  match limit with
  | some limit => limit < total
  | none => false

/-- Adds the entries of a value to a count, unless the count is beyond the limit already. -/
def countFrom (limit : Option Int) (room total : Nat) (value : Json) : Except Failure Nat :=
  match value with
  | .obj fragment =>
    if exceeds limit total then .ok total
    else if room < callsPerCount then .error .tooDeep
    else if (Fragment.combiner? fragment).isNone && Fragment.isReference fragment then
      .ok (total + 1)
    else do
      let held ← Fragment.held (room - callsPerCount) fragment
      held.values.foldlM (countFrom limit (held.roomBelow (room - callsPerCount))) (total + 1)
  | _ => .ok total
termination_by room
decreasing_by
  exact held.roomBelow_lt ‹_›

theorem countFrom_of_members?_eq_none (limit : Option Int) (room total : Nat) {v : Json}
    (h : v.members? = none) : countFrom limit room total v = .ok total := by
  rw [countFrom]
  rintro fragment rfl
  cases h

def namedSchemaKeywords : List String :=
  ["properties", "patternProperties", "definitions", "$defs", "dependencies"]

def dataKeywords : List String := ["enum", "const", "default", "examples"]

/-- Whether an `allOf` list occurs in a value, looked for from the left. -/
def findAllOf : Nat → Json → Except Failure Bool
  | 0, _ => .error .tooDeep
  | room + 1, .arr items => items.anyM (findAllOf room)
  | room + 1, .obj fragment =>
    match Members.get fragment "allOf" with
    | .arr _ => .ok true
    | _ =>
      fragment.anyM fun (keyword, v) =>
        if dataKeywords.contains keyword then .ok false
        else
          match v with
          | .obj named =>
            if namedSchemaKeywords.contains keyword then
              named.anyM fun entry => findAllOf room entry.2
            else findAllOf room v
          | _ => findAllOf room v
  | _, _ => .ok false

def entryCount (document : Json) (limit : Option Int) : Except Failure Nat :=
  (countFrom limit callLimit 0 document).mapError Outline.drawingFailure

def mentionsAllOf (document : Json) : Except Failure Bool :=
  (findAllOf nestingLimit document).mapError Outline.drawingFailure

end Estimate

end SchemaOutline
