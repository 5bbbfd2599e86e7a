import SchemaOutline.Summary

/-!
# Expansions

The expansion of a fragment lists what stands directly below its entry. Branches of a combiner,
items in tuple form and properties become entries of their own. A single schema for all items is
expanded in place instead: what it holds is listed below the array itself, and only the locations
show the way through `items`.
-/

set_option autoImplicit false

namespace SchemaOutline

structure Descent where
  steps : List Step
  value : Json
  inherited : Json
deriving Repr, DecidableEq, Inhabited

structure Expansion where
  expandable : Bool
  descents : List Descent
  /-- How many arrays have been gone through in place. -/
  arrays : Nat
deriving Repr, DecidableEq, Inhabited

namespace Expansion

def leaf (lead : List Step) : Expansion := ⟨false, [], lead.length⟩

/-- The room for what is listed, out of the room that there was for the expansion. -/
def roomBelow (expansion : Expansion) (room : Nat) : Nat :=
  room - callsInPlace * expansion.arrays

theorem roomBelow_le (expansion : Expansion) (room : Nat) : expansion.roomBelow room ≤ room :=
  Nat.sub_le _ _

theorem roomBelow_lt {room : Nat} (h : ¬ room < callsPerEntry) (expansion : Expansion) :
    expansion.roomBelow (room - callsPerEntry) < room := by
  have hLe := expansion.roomBelow_le (room - callsPerEntry)
  simp only [callsPerEntry] at *
  omega

/-- The branches of a combiner, each with the type of the combiner where it has none. -/
def ofBranches (lead : List Step) (c : Combiner) (branches : List Json) (type : Json) :
    Expansion where
  expandable := true
  descents := branches.zipIdx.map fun (branch, i) =>
    ⟨lead ++ [.key c.keyword, .index i], branch.inheriting type, type⟩
  arrays := lead.length

def ofTuple (lead : List Step) (items : List Json) : Expansion where
  expandable := true
  descents := items.zipIdx.map fun (item, i) => ⟨lead ++ [.key "items", .index i], item, .null⟩
  arrays := lead.length

def ofNamed (lead : List Step) (keyword : String) (named : Members) : List Descent :=
  named.map fun (name, v) => ⟨lead ++ [.key keyword, .key name], v, .null⟩

/-- Properties and then pattern properties. Without either map there is nothing to expand. -/
def ofProperties (lead : List Step) (properties patternProperties : Option Members) :
    Expansion where
  expandable := properties.isSome || patternProperties.isSome
  descents := ofNamed lead "properties" (properties.getD [])
    ++ ofNamed lead "patternProperties" (patternProperties.getD [])
  arrays := lead.length

/-- The items of an array. A single schema is expanded in place, through as many arrays as there is
room for; each of them adds a step to the lead. -/
def ofItems (room : Nat) (lead : List Step) (items : Json) : Except Failure Expansion :=
  match items with
  | .arr items => .ok (ofTuple lead items)
  | .obj inner =>
    if room < callsInPlace then .error .tooDeep
    else
      let lead := lead ++ [.key "items"]
      match Fragment.structuralKind inner with
      | .array => ofItems (room - callsInPlace) lead (Members.get inner "items")
      | .object =>
        .ok (ofProperties lead (Members.get inner "properties").members?
          (Members.get inner "patternProperties").members?)
      | .combiner =>
        match Fragment.combiner? inner with
        | some c =>
          let branches := (Members.get inner c.keyword).items?.getD []
          .ok (ofBranches lead c branches (Members.get inner "type"))
        | none => .ok (leaf lead)
      | _ => .ok (leaf lead)
  | _ => .ok (leaf lead)
termination_by room
decreasing_by
  exact sub_callsInPlace_lt ‹_›

/-- The expansion of a summarised fragment. References are never followed: one into the document
itself can be expanded by whoever shows the outline, and is listed without children. -/
def ofSummary (room : Nat) (summary : Summary) : Except Failure Expansion :=
  match summary.shape with
  | .object properties patternProperties _ _ =>
    .ok (ofProperties [] properties patternProperties)
  | .array items _ => ofItems room [] items
  | .combiner c branches => .ok (ofBranches [] c branches summary.typeValue)
  | .reference target =>
    .ok ⟨Summary.isLocalTarget target && !Summary.isRootTarget target, [], 0⟩
  | .scalar => .ok (leaf [])

end Expansion

end SchemaOutline
