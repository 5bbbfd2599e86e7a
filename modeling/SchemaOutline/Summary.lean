import SchemaOutline.Failure
import SchemaOutline.Fragment
import SchemaOutline.IdSource

/-!
# Summaries of fragments

A summary keeps what an outline shows of a fragment: its kind with the parts that lead further
down, its declared type, its listed values, its notes and its constraints. Keyword values of the
wrong form are left out; only an entry of `required` that is not text makes a fragment unfit for a
summary (`Summary.ofFragment`).
-/

set_option autoImplicit false

namespace SchemaOutline

inductive TypeName where
  | one (name : String)
  | several (names : List String)
deriving Repr, DecidableEq, Inhabited

namespace TypeName

def toJson : TypeName → Json
  | .one name => .str name
  | .several names => .arr (names.map .str)

def ofJson? : Json → Option TypeName
  | .str name => some (.one name)
  | .arr items => (items.mapM Json.text?).map .several
  | _ => none

end TypeName

inductive Shape where
  | object (properties patternProperties : Option Members) (additionalProperties : Json)
      (required : Option (List String))
  | array (items additionalItems : Json)
  | combiner (combiner : Combiner) (branches : List Json)
  | reference (target : String)
  | scalar
deriving Repr, DecidableEq, Inhabited

def Shape.kind : Shape → Kind
  | .object .. => .object
  | .array .. => .array
  | .combiner .. => .combiner
  | .reference _ => .reference
  | .scalar => .scalar

structure Summary where
  id : String
  type : Option TypeName
  enum : Option (List Json)
  annotations : Members
  validations : Members
  shape : Shape
deriving Repr, DecidableEq, Inhabited

namespace Summary

def kind (summary : Summary) : Kind := summary.shape.kind

def typeValue (summary : Summary) : Json :=
  match summary.type with
  | some type => type.toJson
  | none => .null

def annotationKeywords : List String := ["title", "description", "default", "examples"]

def validationKeywords : List String :=
  ["format", "pattern", "minLength", "maxLength", "minimum", "maximum", "exclusiveMinimum",
    "exclusiveMaximum", "multipleOf", "minItems", "maxItems", "uniqueItems", "minProperties",
    "maxProperties", "const", "readOnly", "writeOnly", "deprecated"]

def pick (fragment : Members) (keywords : List String) : Members :=
  keywords.filterMap fun keyword => (fragment.get? keyword).map fun v => (keyword, v)

def isExtension (name : String) : Bool := "x-".toList.isPrefixOf name.toList

def annotationsOf (fragment : Members) : Members :=
  pick fragment annotationKeywords ++ fragment.filter fun member => isExtension member.1

def validationsOf (fragment : Members) : Members := pick fragment validationKeywords

/-- The declared type, or the type that the kind implies. -/
def typeOf (declared : Json) (implied : Option TypeName) : Option TypeName :=
  (TypeName.ofJson? declared).orElse fun _ => implied

def textFaults (items : List Json) : List Fault :=
  items.zipIdx.filterMap fun (item, i) =>
    match item with
    | .str _ => none
    | _ => some ⟨[.key "required", .index i], .notText⟩

/-- The names in `required`, `none` where it is no list. -/
def requiredOf (fragment : Members) : Except Failure (Option (List String)) :=
  match fragment.get "required" with
  | .arr items =>
    match items.mapM Json.text? with
    | some names => .ok (some names)
    | none => .error (.refused .objectSummary (textFaults items))
  | _ => .ok none

/-- The summary of a fragment. `inherited` is the type of the combiner around it, which only a
reference takes from there. -/
def ofFragment (id : String) (fragment : Members) (inherited : Json) : Except Failure Summary :=
  let summary (type : Option TypeName) (shape : Shape) : Summary :=
    { id, type, shape
      enum := (fragment.get "enum").items?
      annotations := annotationsOf fragment
      validations := validationsOf fragment }
  let declared := fragment.get "type"
  match Fragment.combiner? fragment with
  | some c =>
    .ok (summary (typeOf declared none) (.combiner c ((fragment.get c.keyword).items?.getD [])))
  | none =>
    if Fragment.isReference fragment then
      let target := (fragment.get "$ref").text?.getD ""
      .ok (summary (typeOf inherited none) (.reference target))
    else
      match Fragment.structuralKind fragment with
      | .array =>
        .ok (summary (typeOf declared (some (.one "array")))
          (.array (fragment.get "items") (fragment.get "additionalItems")))
      | .object => do
        let required ← requiredOf fragment
        .ok (summary (typeOf declared (some (.one "object")))
          (.object (fragment.get "properties").members? (fragment.get "patternProperties").members?
            (fragment.get "additionalProperties") required))
      | _ => .ok (summary (typeOf declared none) .scalar)

def isLocalTarget (target : String) : Bool := target.toList.head? == some '#'

def isRootTarget (target : String) : Bool := target == "#"

mutual
/-- The summaries of a fragment or of all the fragments in a list, with an identifier drawn for
each. Lists may lie in each other as deep as there is room. -/
def walk : Nat → Json → Json → IdSource → Except Failure (List Summary × IdSource)
  | _, .obj fragment, inherited, ids => do
    let summary ← ofFragment ids.peek fragment inherited
    .ok ([summary], ids.next)
  | 0, .arr _, _, _ => .error .tooDeep
  | room + 1, .arr items, inherited, ids => walkItems room items inherited ids
  | _, _, _, ids => .ok ([], ids)

def walkItems : Nat → List Json → Json → IdSource → Except Failure (List Summary × IdSource)
  | _, [], _, ids => .ok ([], ids)
  | room, item :: rest, inherited, ids => do
    let (first, ids) ← walk room item inherited ids
    let (others, ids) ← walkItems room rest inherited ids
    .ok (first ++ others, ids)
end

end Summary

end SchemaOutline
