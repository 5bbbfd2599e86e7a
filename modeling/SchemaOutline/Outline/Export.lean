import SchemaOutline.Wire

/-!
# Exported outlines

An outline is exported as one JSON object with its entries and, under their identifiers, its
records. The summary in a record leaves absent fields out and writes `null` for numbers that are not
finite, while its notes and constraints stand beside it once more exactly as the document has them.
-/

set_option autoImplicit false

namespace SchemaOutline

mutual
/-- The value with `null` for every number that is not finite. -/
def Json.finite : Json → Json
  | .float x => if (Binary64.ofFloat? x).isSome then .float x else .null
  | .arr items => .arr (finiteItems items)
  | .obj members => .obj (finiteMembers members)
  | v => v

def Json.finiteItems : List Json → List Json
  | [] => []
  | v :: rest => v.finite :: finiteItems rest

def Json.finiteMembers : List (String × Json) → List (String × Json)
  | [] => []
  | (name, v) :: rest => (name, v.finite) :: finiteMembers rest
end

/-- The number of containers that an exported summary may hold in each other. -/
def exportDepth : Nat := 255

def Summary.exported (summary : Summary) : Except Failure Json :=
  let fields := (Wire.summaryFields summary).filter fun field => field.2 != .null
  if (Json.obj fields).depth ≤ exportDepth then .ok (Json.obj fields).finite
  else .error .exportTooDeep

def Record.exported (record : Record) : Except Failure Json := do
  let summary ← record.summary.exported
  .ok (.obj
    [("path", Wire.locationValue record.location), ("schema", summary),
      ("annotations", .obj record.summary.annotations),
      ("validations", .obj record.summary.validations)])

def Outline.exported (outline : Outline) : Except Failure Json := do
  let records ← outline.entries.toList.mapM fun entry => do
    let record ← outline.record entry.id
    let written ← record.exported
    .ok (entry.id, written)
  .ok (.obj
    [("nodes", .arr (outline.entries.toList.map fun entry => .obj (Wire.entryFields entry))),
      ("metadata", .obj (Members.ofPairs records))])

end SchemaOutline
