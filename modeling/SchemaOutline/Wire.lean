import SchemaOutline.Checked.Scalar
import SchemaOutline.Job

/-!
# Records as JSON

Jobs and deliveries travel as JSON objects. Reading one checks every field; writing a summary lists
its fields in their order, which is also the order in which faults are reported. Some fields have
two names, of which the first one is written and goes first when both are present.
-/

set_option autoImplicit false

namespace SchemaOutline.Wire

open Checked

def record {α : Type} (check : Members → Checked α) : Json → Checked α
  | .obj members => check members
  | _ => fail .notRecord

/-- A declared type: a text or a list of texts. Both forms report what is wrong. -/
def typeName : Json → Checked TypeName
  | .str name => accepted (.one name)
  | v =>
    match list text v with
    | accepted names => accepted (.several names)
    | several =>
      rejected (((fail .notText : Checked Unit).below (.key "str")).faults
        ++ (several.below (.key "list[str]")).faults)

def step : Json → Checked Step
  | .str name => accepted (.key name)
  | v =>
    match integer v with
    | accepted position => accepted (.index position)
    | number =>
      rejected (((fail .notText : Checked Unit).below (.key "str")).faults
        ++ (number.below (.key "int")).faults)

def location : Json → Checked Location
  | .arr steps => items step steps
  | _ => fail .notSequence

def locationOf (steps : List Json) : Except Failure Location :=
  (withDefault [("path", .arr steps)] ["path"] [] location).toExcept .record

def combiner : Json → Checked Combiner
  | .str keyword =>
    match Combiner.ofKeyword? keyword with
    | some c => accepted c
    | none => fail .notOffered
  | _ => fail .notOffered

def shape (members : Members) : Kind → Checked Shape
  | .object =>
    Shape.object
      <$> withDefault members ["properties"] none (optional object)
      <*> withDefault members ["patternProperties", "pattern_properties"] none (optional object)
      <*> withDefault members ["additionalProperties", "additional_properties"] .null any
      <*> withDefault members ["required"] none (optional (list text))
  | .array =>
    Shape.array
      <$> withDefault members ["items"] .null any
      <*> withDefault members ["additionalItems", "additional_items"] .null any
  | .combiner =>
    Shape.combiner
      <$> required members ["combiner"] combiner
      <*> withDefault members ["branches"] [] (list any)
  | .reference => Shape.reference <$> required members ["$ref", "ref"] text
  | .scalar => accepted .scalar

def kindNamed? (v : Json) : Option Kind :=
  [Kind.object, .array, .combiner, .reference, .scalar].find? fun kind => v == .str kind.name

/-- A summary. Its kind decides which fields are looked at and is part of every place. -/
def summary : Json → Checked Summary
  | .obj members =>
    match Members.get? members "kind" with
    | none => fail .tagMissing
    | some tag =>
      match kindNamed? tag with
      | none => fail .tagUnknown
      | some kind =>
        Checked.below (.key kind.name)
          (Summary.mk
            <$> required members ["id"] text
            <*> withDefault members ["type"] none (optional typeName)
            <*> withDefault members ["enum"] none (optional (list any))
            <*> withDefault members ["annotations"] [] object
            <*> withDefault members ["validations"] [] object
            <*> shape members kind)
  | _ => fail .notTaggedRecord

def outlineRecord : Json → Checked Record :=
  record fun members =>
    Record.mk
      <$> required members ["fragment"] summary
      <*> withDefault members ["path"] [] location

def namedRecords : Json → Checked Records
  | .obj members =>
    members.foldr
      (fun (id, v) rest =>
        (fun record records => (id, record) :: records)
          <$> (outlineRecord v).below (.key id) <*> rest)
      (accepted [])
  | _ => fail .notObject

def records : Json → Checked Records :=
  record fun members => withDefault members ["records"] [] namedRecords

def entry : Json → Checked Entry :=
  record fun members =>
    Entry.mk
      <$> required members ["id"] text
      <*> withDefault members ["name"] "" text
      <*> required members ["level"] integer
      <*> withDefault members ["parent"] none (optional integer)
      <*> withDefault members ["children"] none (optional (list integer))

def delivery (v : Json) : Except Failure Delivery :=
  Checked.toExcept .delivery
    (record (fun members =>
      Delivery.mk
        <$> required members ["instance_id"] text
        <*> (withDefault members ["nodes"] [] (list entry)).map List.toArray
        <*> withDefault members ["metadata"] [] records) v)

def job (v : Json) : Except Failure Job :=
  Checked.toExcept .job
    (record (fun members =>
      Job.mk
        <$> required members ["instance_id"] text
        <*> required members ["schema", "document"] object
        <*> withDefault members ["merge_all_of"] true truth) v)

def jobFor (ticket : String) (document : Json) (foldsAllOf : Bool) : Except Failure Job :=
  Checked.toExcept .job
    ((fun document => ⟨ticket, document, foldsAllOf⟩)
      <$> (object document).below (.key "document"))

def jobFields (job : Job) : Members :=
  [("instance_id", .str job.ticket), ("schema", .obj job.document),
    ("merge_all_of", .bool job.foldsAllOf)]

def orNull {α : Type} (write : α → Json) : Option α → Json
  | some value => write value
  | none => .null

def shapeFields : Shape → Members
  | .object properties patternProperties additionalProperties required =>
    [("properties", orNull .obj properties), ("patternProperties", orNull .obj patternProperties),
      ("additionalProperties", additionalProperties),
      ("required", orNull (fun names => .arr (names.map .str)) required)]
  | .array items additionalItems => [("items", items), ("additionalItems", additionalItems)]
  | .combiner c branches => [("combiner", .str c.keyword), ("branches", .arr branches)]
  | .reference target => [("$ref", .str target)]
  | .scalar => []

/-- The fields of a summary, `null` standing for what is absent. -/
def summaryFields (summary : Summary) : Members :=
  [("id", .str summary.id), ("kind", .str summary.kind.name), ("type", summary.typeValue),
    ("enum", orNull .arr summary.enum), ("annotations", .obj summary.annotations),
    ("validations", .obj summary.validations)] ++ shapeFields summary.shape

def stepValue : Step → Json
  | .key name => .str name
  | .index position => .int position

def locationValue (location : Location) : Json := .arr (location.map stepValue)

def entryFields (entry : Entry) : Members :=
  [("id", .str entry.id), ("name", .str entry.name), ("level", .int entry.level),
    ("parent", orNull .int entry.parent),
    ("children", orNull (fun children => .arr (children.map .int)) entry.children),
    ("can_have_children", .bool entry.isExpandable)]

end SchemaOutline.Wire
