import SchemaOutline.Json

/-!
# Schema fragments

A fragment is an object that stands where a schema is expected. What kind of fragment it is follows
from the presence of keywords alone and in a fixed order: combiners come before references, those
before arrays, and arrays before objects. Nothing here depends on the order of the members.
-/

set_option autoImplicit false

namespace SchemaOutline

inductive Combiner where
  | allOf
  | anyOf
  | oneOf
deriving Repr, DecidableEq, Inhabited

namespace Combiner

def keyword : Combiner → String
  | .allOf => "allOf"
  | .anyOf => "anyOf"
  | .oneOf => "oneOf"

def all : List Combiner := [.allOf, .anyOf, .oneOf]

def ofKeyword? (keyword : String) : Option Combiner :=
  all.find? fun c => c.keyword == keyword

end Combiner

inductive Kind where
  | object
  | array
  | combiner
  | reference
  | scalar
deriving Repr, DecidableEq, Inhabited

def Kind.name : Kind → String
  | .object => "object"
  | .array => "array"
  | .combiner => "combiner"
  | .reference => "ref"
  | .scalar => "scalar"

namespace Fragment

def combiner? (fragment : Members) : Option Combiner :=
  Combiner.all.find? fun c => fragment.has c.keyword

def declaresType (fragment : Members) (name : String) : Bool :=
  match fragment.get "type" with
  | .arr names => names.contains (.str name)
  | declared => declared == .str name

/-- The kind by structure, in which a reference is no kind of its own. -/
def structuralKind (fragment : Members) : Kind :=
  if (combiner? fragment).isSome then .combiner
  else if fragment.has "items" || declaresType fragment "array" then .array
  else if fragment.has "properties" || fragment.has "patternProperties"
      || declaresType fragment "object" then .object
  else .scalar

/-- A reference names its target in `$ref` and has no `type` of its own. -/
def isReference (fragment : Members) : Bool :=
  (fragment.get "$ref").text?.isSome && !fragment.has "type"

/-- The fragment with the type of the combiner around it, when it takes that type: it declares none
itself and is no reference. -/
def withInherited? (fragment : Members) (inherited : Json) : Option Members :=
  if inherited == .null || (fragment.get "type").isTruthy || isReference fragment then none
  else some (fragment.set "type" inherited)

end Fragment

namespace Json

def inheriting? (branch inherited : Json) : Option Json :=
  branch.members?.bind fun fragment => (Fragment.withInherited? fragment inherited).map .obj

/-- A branch as it is drawn under a combiner of the given type. -/
def inheriting (branch inherited : Json) : Json :=
  (branch.inheriting? inherited).getD branch

def combiner? (v : Json) : Option Combiner := v.members?.bind Fragment.combiner?

def structuralKind (v : Json) : Kind :=
  match v with
  | .obj fragment => Fragment.structuralKind fragment
  | _ => .scalar

end Json

end SchemaOutline
