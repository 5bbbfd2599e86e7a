import SchemaOutline.Failure
import SchemaOutline.Fragment

/-!
# Folding `allOf`

A list of branches under `allOf` is folded into the fragment that holds it if it is not empty and
every branch is a fragment without a `$ref`. Folding works from the inside: the schemas in a
fragment are folded before the fragment itself. Where two fragments say different things the one
that is already there prevails, except that properties are united, and so are the names in
`required` (`Fragment.absorb`).
-/

set_option autoImplicit false

namespace SchemaOutline

namespace Fragment

def propertyKeywords : List String := ["properties", "patternProperties"]

def union (first second : List Json) : List Json :=
  first ++ second.filter fun item => !first.any (item.agrees ·)

mutual
def absorb (target : Members) : List (String × Json) → Members
  | [] => target
  | (keyword, .obj named) :: rest =>
    absorb
      (if target.has keyword then
        if propertyKeywords.contains keyword then
          target.set keyword (.obj (absorbNamed ((target.get keyword).members?.getD []) named))
        else target
      else target ++ [(keyword, .obj named)]) rest
  | (keyword, v) :: rest =>
    absorb
      (if target.has keyword then
        match v, target.get keyword with
        | .arr items, .arr present =>
          if keyword == "required" then target.set keyword (.arr (union present items))
          else target
        | _, _ => target
      else target ++ [(keyword, v)]) rest

def absorbNamed (target : Members) : List (String × Json) → Members
  | [] => target
  | (name, .obj fragment) :: rest =>
    absorbNamed
      (match target.get? name with
        | some (.obj present) => target.set name (.obj (absorb present fragment))
        | some _ => target
        | none => target ++ [(name, .obj fragment)]) rest
  | (name, v) :: rest =>
    absorbNamed (if target.has name then target else target ++ [(name, v)]) rest
end

/-- Whether an `allOf` value is a list of branches that can be folded. -/
def foldableBranches? (value : Json) : Option (List Members) :=
  match value with
  | .arr [] => none
  | .arr branches =>
    branches.mapM fun branch =>
      branch.members?.bind fun fragment => if fragment.has "$ref" then none else some fragment
  | _ => none

def foldOwn (fragment : Members) : Members :=
  match foldableBranches? (fragment.get "allOf") with
  | some branches => branches.foldl absorb (fragment.erase "allOf")
  | none => fragment

def namedSchemaKeywords : List String :=
  ["properties", "patternProperties", "definitions", "$defs"]

def schemaListKeywords : List String := ["allOf", "anyOf", "oneOf"]

def schemaKeywords : List String := ["items", "additionalItems", "additionalProperties", "not"]

end Fragment

namespace Json

open Fragment

mutual
/-- The value with every `allOf` folded that can be. What is no fragment stays as it is. -/
def foldAllOf : Json → Json
  | .obj fragment => .obj (foldOwn (foldMembers fragment))
  | v => v

def foldMembers : List (String × Json) → List (String × Json)
  | [] => []
  | (keyword, .obj inner) :: rest =>
    (keyword,
      if Fragment.namedSchemaKeywords.contains keyword then .obj (foldNamed inner)
      else if schemaKeywords.contains keyword then .obj (foldOwn (foldMembers inner))
      else .obj inner) :: foldMembers rest
  | (keyword, .arr items) :: rest =>
    (keyword,
      if schemaListKeywords.contains keyword || schemaKeywords.contains keyword then
        .arr (foldItems items)
      else .arr items) :: foldMembers rest
  | (keyword, v) :: rest => (keyword, v) :: foldMembers rest

def foldNamed : List (String × Json) → List (String × Json)
  | [] => []
  | (name, v) :: rest => (name, foldAllOf v) :: foldNamed rest

def foldItems : List Json → List Json
  | [] => []
  | v :: rest => foldAllOf v :: foldItems rest
end

mutual
/-- The number of fragments that folding goes into each other. -/
def foldDepth : Json → Nat
  | .obj fragment => foldDepthOfMembers fragment + 1
  | _ => 0

def foldDepthOfMembers : List (String × Json) → Nat
  | [] => 0
  | (keyword, .obj inner) :: rest =>
    max
      (if Fragment.namedSchemaKeywords.contains keyword then foldDepthOfNamed inner
      else if schemaKeywords.contains keyword then foldDepthOfMembers inner + 1
      else 0) (foldDepthOfMembers rest)
  | (keyword, .arr items) :: rest =>
    max
      (if schemaListKeywords.contains keyword || schemaKeywords.contains keyword then
        foldDepthOfItems items
      else 0) (foldDepthOfMembers rest)
  | (_, _) :: rest => foldDepthOfMembers rest

def foldDepthOfNamed : List (String × Json) → Nat
  | [] => 0
  | (_, v) :: rest => max (foldDepth v) (foldDepthOfNamed rest)

def foldDepthOfItems : List Json → Nat
  | [] => 0
  | v :: rest => max (foldDepth v) (foldDepthOfItems rest)
end

def foldAllOf? (v : Json) : Except Failure Json :=
  if v.foldDepth ≤ nestingLimit then .ok v.foldAllOf else .error .tooDeep

end Json

end SchemaOutline
