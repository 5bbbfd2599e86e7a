import SchemaOutline.Outline

/-!
# Lines

A line is what a reader sees of an entry: a name taken from the end of its location, a label for
its type, and its pointer. Labels of arrays show the types of their items, and they do so from the
raw item schemas; an item type that is not text can make a label impossible.
-/

set_option autoImplicit false

namespace SchemaOutline

structure Line where
  name : String
  label : String
  pointer : String
  level : Int
  expandable : Bool
deriving Repr, DecidableEq

/-- The display name of a value from the keyword and the last step that lead to it. -/
def nameFor (keyword last : Step) : String :=
  match keyword with
  | .key keyword =>
    if keyword == "items" then "[" ++ last.text ++ "]"
    else if (Combiner.ofKeyword? keyword).isSome then keyword ++ "[" ++ last.text ++ "]"
    else last.text
  | .index _ => last.text

def Location.name (location : Location) : String :=
  match location.reverse with
  | last :: keyword :: _ => nameFor keyword last
  | _ => ""

namespace Label

def ofType (type : Option TypeName) (fallback : String) : String :=
  match type with
  | some (.one name) => if name.isEmpty then fallback else name
  | some (.several names) => if names.isEmpty then fallback else "|".intercalate names
  | none => fallback

/-- The texts of a list; the first item that is none is the failure. -/
def texts (items : List Json) : Except Failure (List String) :=
  items.zipIdx.mapM fun (item, i) =>
    match item with
    | .str s => .ok s
    | other => .error (.labelNotText i other)

def targetName (target : String) : String :=
  let trimmed := (target.toList.reverse.dropWhile (· == '/')).reverse
  let segment := (trimmed.reverse.takeWhile (· != '/')).reverse
  if segment.isEmpty then target else String.ofList segment

/-- What is shown for one item schema of an array. A declared type stands for itself, be it text or
not. -/
def ofItem (item : Json) : Except Failure Json :=
  match item with
  | .obj fragment =>
    match Members.get fragment "$ref" with
    | .str target => .ok (.str (targetName target))
    | _ =>
      match Fragment.combiner? fragment with
      | some c => .ok (.str c.keyword)
      | none =>
        if Members.has fragment "items" then .ok (.str "array")
        else if Members.has fragment "properties" || Members.has fragment "patternProperties" then
          .ok (.str "object")
        else
          match Members.get fragment "type" with
          | .arr [] => .ok (.str "any")
          | .arr names => (texts names).map fun names => .str ("|".intercalate names)
          | declared => .ok (if declared.isTruthy then declared else .str "any")
  | _ => .ok (.str "any")

def ofArray (items : Json) (type : Option TypeName) : Except Failure String :=
  match items with
  | .arr items => do
    let labels ← items.mapM ofItem
    let labels ← texts labels
    .ok ("array[" ++ ", ".intercalate labels ++ "]")
  | .obj _ => do
    let label ← ofItem items
    .ok ("array[" ++ label.display ++ "]")
  | _ => .ok (ofType type "array")

def ofSummary (summary : Summary) : Except Failure String :=
  match summary.shape with
  | .object .. => .ok (ofType summary.type "object")
  | .array items _ => ofArray items summary.type
  | .combiner c _ =>
    .ok (if summary.typeValue.isTruthy then c.keyword ++ "<" ++ ofType summary.type "any" ++ ">"
      else c.keyword)
  | .reference target => .ok ("$ref(" ++ target ++ ")")
  | .scalar =>
    .ok (if summary.type.isNone && summary.enum.isSome then "enum" else ofType summary.type "any")

end Label

namespace Outline

/-- The line of an entry. A name that was given to the entry goes before the one of its location. -/
def line (outline : Outline) (entry : Entry) : Except Failure Line := do
  let record ← outline.record entry.id
  let label ← Label.ofSummary record.summary
  .ok
    { name := if entry.name.isEmpty then record.location.name else entry.name
      label
      pointer := record.location.pointer
      level := entry.level
      expandable := entry.isExpandable }

def lines (outline : Outline) : Except Failure (List Line) :=
  outline.entries.toList.mapM outline.line

def nameEntries (records : Records) : List Entry → Option Failure × List Entry
  | [] => (none, [])
  | entry :: rest =>
    match records.lookup entry.id with
    | none => (some (.noRecord entry.id), entry :: rest)
    | some record =>
      let (failure, rest) := nameEntries records rest
      (failure, { entry with name := record.location.name } :: rest)

/-- Gives every entry the name of its location, up to the first entry without a record. -/
def fillNames (outline : Outline) : Option Failure × Outline :=
  let (failure, entries) := nameEntries outline.records outline.entries.toList
  (failure, { outline with entries := entries.toArray })

end Outline

end SchemaOutline
