import Mathlib.Logic.Relation
import SchemaOutline.Outline.Estimate
import SchemaOutline.Proofs.Fragment.Inheritance
import SchemaOutline.Summary

/-!
# What holds throughout a document

`Json.Throughout` says that a property holds of all the fragments of a document, at whatever depth
they stand. A type that is neither a name nor a list of names is left out of summaries:
`Json.NamesTypes` says that a document declares no such type anywhere, and `Json.LendsNames` only
that no combiner does, so that no branch takes over such a type. Then none of the parts of the
document lends one either, although branches do take over the types of their combiners
(`LendsNames.inheriting`).
-/

set_option autoImplicit false

namespace SchemaOutline

namespace TypeName

theorem map_str_of_mapM_text? {items : List Json} {names : List String}
    (h : items.mapM Json.text? = some names) : names.map Json.str = items := by
  induction items generalizing names with
  | nil =>
    cases h
    rfl
  | cons item rest ih =>
    rw [List.mapM_cons] at h
    cases item with
    | str name =>
      cases hRest : rest.mapM Json.text? with
      | none =>
        rw [hRest] at h
        cases h
      | some others =>
        rw [hRest] at h
        cases h
        rw [List.map_cons, ih hRest]
    | _ => cases h

theorem toJson_of_ofJson? {v : Json} {type : TypeName} (h : ofJson? v = some type) :
    type.toJson = v := by
  cases v with
  | str name =>
    cases h
    rfl
  | arr items =>
    obtain ⟨names, hNames, rfl⟩ := Option.map_eq_some_iff.mp h
    rw [toJson, map_str_of_mapM_text? hNames]
  | _ => cases h

end TypeName

/-- A type that is declared but is neither a name nor a list of names. -/
def Nameless (type : Json) : Prop := type ≠ .null ∧ TypeName.ofJson? type = none

theorem Summary.typeValue_cases {summary : Summary} {declared : Json}
    (h : summary.type = TypeName.ofJson? declared) :
    summary.typeValue = declared ∨
      TypeName.ofJson? declared = none ∧ summary.typeValue = .null := by
  unfold typeValue
  rw [h]
  cases hType : TypeName.ofJson? declared with
  | none => exact .inr ⟨rfl, rfl⟩
  | some type => exact .inl (TypeName.toJson_of_ofJson? hType)

namespace Fragment

/-- If the fragment declares a type then that is a name or a list of names. -/
def NamesType (fragment : Members) : Prop :=
  ∀ type, fragment.get? "type" = some type → (TypeName.ofJson? type).isSome

/-- The values that stand in a fragment where a schema is expected: branches, items and the schema
of all items, and properties. -/
def parts (fragment : Members) : List Json :=
  (["allOf", "anyOf", "oneOf", "items"].flatMap fun keyword =>
      (fragment.get keyword).items?.getD [])
    ++ [fragment.get "items"]
    ++ ["properties", "patternProperties"].flatMap fun keyword =>
      ((fragment.get keyword).members?.getD []).values

def Contains (fragment part : Members) : Prop := .obj part ∈ parts fragment

variable {fragment other part : Members}

theorem mem_parts_iff {v : Json} :
    v ∈ parts fragment ↔
      (∃ keyword ∈ ["allOf", "anyOf", "oneOf", "items"],
        v ∈ (fragment.get keyword).items?.getD []) ∨
      v = fragment.get "items" ∨
      ∃ keyword ∈ ["properties", "patternProperties"],
        v ∈ ((fragment.get keyword).members?.getD []).values := by
  rw [parts, List.mem_append, List.mem_append, List.mem_flatMap, List.mem_flatMap,
    List.mem_singleton, or_assoc]

/-- A fragment that another one contains stands under some keyword: as the value itself, or in the
list or among the named values that stand there. -/
theorem exists_get?_of_contains (h : Contains fragment part) :
    ∃ keyword v, fragment.get? keyword = some v ∧
      (v = .obj part ∨ (∃ items, v = .arr items ∧ .obj part ∈ items) ∨
        ∃ named, v = .obj named ∧ .obj part ∈ Members.values named) := by
  obtain ⟨keyword, -, hMem⟩ | hItems | ⟨keyword, -, hMem⟩ := mem_parts_iff.mp h
  · cases hGet : fragment.get keyword with
    | arr items =>
      rw [hGet] at hMem
      exact ⟨keyword, _, Members.get?_of_get_eq_arr hGet, .inr (.inl ⟨items, rfl, hMem⟩)⟩
    | _ =>
      rw [hGet] at hMem
      cases hMem
  · exact ⟨"items", _, Members.get?_of_get_eq_obj hItems.symm, .inl rfl⟩
  · cases hGet : fragment.get keyword with
    | obj named =>
      rw [hGet] at hMem
      exact ⟨keyword, _, Members.get?_of_get_eq_obj hGet, .inr (.inr ⟨named, rfl, hMem⟩)⟩
    | _ =>
      rw [hGet] at hMem
      cases hMem

theorem sizeOf_lt_of_contains (h : Contains fragment part) : sizeOf part < sizeOf fragment := by
  obtain ⟨keyword, v, hGet, hPart⟩ := exists_get?_of_contains h
  have hLt := Members.sizeOf_lt_of_get? hGet
  obtain rfl | ⟨items, rfl, hMem⟩ | ⟨named, rfl, hMem⟩ := hPart
  · simp only [Json.obj.sizeOf_spec] at hLt
    omega
  · have hItem := List.sizeOf_lt_of_mem hMem
    simp only [Json.obj.sizeOf_spec, Json.arr.sizeOf_spec] at hLt hItem
    omega
  · obtain ⟨⟨name, v⟩, hMember, rfl⟩ := List.mem_map.mp hMem
    have hValue := List.sizeOf_lt_of_mem hMember
    simp only [Json.obj.sizeOf_spec, Prod.mk.sizeOf_spec] at hLt hValue
    omega

theorem noDuplicates_of_contains (hNames : (Json.obj fragment).NoDuplicates)
    (h : Contains fragment part) : (Json.obj part).NoDuplicates := by
  obtain ⟨keyword, v, hGet, hPart⟩ := exists_get?_of_contains h
  have hValue := hNames.get? hGet
  obtain rfl | ⟨items, rfl, hMem⟩ | ⟨named, rfl, hMem⟩ := hPart
  · exact hValue
  · exact hValue.of_mem_items hMem
  · exact hValue.of_mem_values hMem

/-- Without a member a fragment contains nothing that it did not contain before. -/
theorem contains_of_erase {name : String} (h : Contains (fragment.erase name) part) :
    Contains fragment part := by
  have hGet (keyword : String) : (fragment.erase name).get keyword = .null ∨
      (fragment.erase name).get keyword = fragment.get keyword := by
    unfold Members.get
    rw [Members.get?_erase]
    split
    · exact .inl rfl
    · exact .inr rfl
  rw [Contains, mem_parts_iff] at h ⊢
  obtain ⟨keyword, hKeyword, hMem⟩ | hItems | ⟨keyword, hKeyword, hMem⟩ := h
  · obtain hNull | hSame := hGet keyword
    · rw [hNull] at hMem
      cases hMem
    · exact .inl ⟨keyword, hKeyword, hSame ▸ hMem⟩
  · obtain hNull | hSame := hGet "items"
    · rw [hNull] at hItems
      cases hItems
    · exact .inr (.inl (hSame ▸ hItems))
  · obtain hNull | hSame := hGet keyword
    · rw [hNull] at hMem
      cases hMem
    · exact .inr (.inr ⟨keyword, hKeyword, hSame ▸ hMem⟩)

theorem get_congr (h : ∀ name ≠ "type", fragment.get? name = other.get? name) {name : String}
    (hName : name ≠ "type") : fragment.get name = other.get name := by
  unfold Members.get
  rw [h name hName]

/-- What a fragment contains does not depend on its type. -/
theorem parts_congr (h : ∀ name ≠ "type", fragment.get? name = other.get? name) :
    parts fragment = parts other := by
  have hGet (name : String) (hName : name ≠ "type") : fragment.get name = other.get name :=
    get_congr h hName
  simp only [parts, List.flatMap_cons, List.flatMap_nil, hGet _ (by decide : "allOf" ≠ "type"),
    hGet _ (by decide : "anyOf" ≠ "type"), hGet _ (by decide : "oneOf" ≠ "type"),
    hGet _ (by decide : "items" ≠ "type"), hGet _ (by decide : "properties" ≠ "type"),
    hGet _ (by decide : "patternProperties" ≠ "type")]

end Fragment

namespace Json

open Fragment

/-- A property of fragments holds of every fragment of a document. -/
def Throughout (p : Members → Prop) (document : Json) : Prop :=
  ∀ root fragment, document = .obj root → Relation.ReflTransGen Contains root fragment →
    p fragment

/-- All types that the fragments of a document declare are names or lists of names. -/
def NamesTypes (document : Json) : Prop :=
  ∀ root fragment, document = .obj root → Relation.ReflTransGen Contains root fragment →
    NamesType fragment

namespace Throughout

variable {p q : Members → Prop} {fragment : Members} {v : Json}

theorem root (h : (obj fragment).Throughout p) : p fragment := h fragment fragment rfl .refl

theorem of_members?_eq_none (h : v.members? = none) : v.Throughout p := by
  rintro root _ rfl
  cases h

theorem of_mem_parts (h : (obj fragment).Throughout p) (hMem : v ∈ parts fragment) :
    v.Throughout p := by
  rintro part inner rfl hInner
  exact h fragment inner rfl (.head hMem hInner)

theorem of_parts (hRoot : p fragment) (h : ∀ v ∈ parts fragment, v.Throughout p) :
    (obj fragment).Throughout p := by
  rintro _ inner ⟨⟩ hInner
  obtain rfl | ⟨part, hPart, hRest⟩ := hInner.cases_head
  · exact hRoot
  · exact h _ hPart part inner rfl hRest

theorem of_contains (hRoot : p fragment)
    (h : ∀ part, Contains fragment part → (obj part).Throughout p) :
    (obj fragment).Throughout p := by
  apply of_parts hRoot
  rintro _ hMem part inner rfl hInner
  exact h part hMem part inner rfl hInner

theorem of_forall (h : ∀ fragment, p fragment) : v.Throughout p :=
  fun _ fragment _ _ => h fragment

theorem mono (hImp : ∀ fragment, p fragment → q fragment) (h : v.Throughout p) :
    v.Throughout q :=
  fun root fragment hRoot hReach => hImp fragment (h root fragment hRoot hReach)

theorem of_mem_items {keyword : String} (h : (obj fragment).Throughout p)
    (hKeyword : keyword ∈ ["allOf", "anyOf", "oneOf", "items"])
    (hMem : v ∈ (fragment.get keyword).items?.getD []) : v.Throughout p := by
  refine h.of_mem_parts (List.mem_append_left _ (List.mem_append_left _ ?_))
  exact List.mem_flatMap.mpr ⟨keyword, hKeyword, hMem⟩

theorem of_mem_named {keyword : String} (h : (obj fragment).Throughout p)
    (hKeyword : keyword ∈ ["properties", "patternProperties"])
    (hMem : v ∈ ((fragment.get keyword).members?.getD []).values) : v.Throughout p :=
  h.of_mem_parts (List.mem_append_right _ (List.mem_flatMap.mpr ⟨keyword, hKeyword, hMem⟩))

theorem of_get_items (h : (obj fragment).Throughout p) :
    (fragment.get "items").Throughout p := by
  refine h.of_mem_parts (List.mem_append_left _ (List.mem_append_right _ ?_))
  exact List.mem_singleton_self _

end Throughout

end Json

/-- If a fragment has branches, which may take over its type, then that is a name or a list of
names. -/
def Fragment.LendsName (fragment : Members) : Prop :=
  (combiner? fragment).isSome → NamesType fragment

theorem Fragment.LendsName.of_get_type {fragment : Members} (h : LendsName fragment)
    (hCombiner : (combiner? fragment).isSome) :
    fragment.get "type" = .null ∨ (TypeName.ofJson? (fragment.get "type")).isSome := by
  unfold Members.get
  cases hType : fragment.get? "type" with
  | none => exact .inl rfl
  | some type => exact .inr (h hCombiner type hType)

namespace Json

open Fragment

/-- All types that combiners in a document declare are names or lists of names. -/
def LendsNames (document : Json) : Prop := document.Throughout LendsName

theorem NamesTypes.lendsNames {document : Json} (h : document.NamesTypes) :
    document.LendsNames :=
  Throughout.mono (fun _ hType _ => hType) h

namespace LendsNames

variable {fragment : Members} {v inherited : Json}

theorem of_get_type (h : (obj fragment).LendsNames)
    (hCombiner : (Fragment.combiner? fragment).isSome) :
    fragment.get "type" = .null ∨ (TypeName.ofJson? (fragment.get "type")).isSome :=
  h.root.of_get_type hCombiner

/-- A branch lends only names also with a type that it has taken over, if that is a name. -/
theorem inheriting (h : v.LendsNames)
    (hType : inherited = .null ∨ (TypeName.ofJson? inherited).isSome) :
    (v.inheriting inherited).LendsNames := by
  obtain rfl | hType := hType
  · rwa [inheriting_null]
  cases hMembers : v.members? with
  | none => rwa [inheriting_of_members?_eq_none hMembers]
  | some fragment =>
    obtain rfl := members?_eq_some_iff.mp hMembers
    obtain hSame | hSet := inheriting_obj fragment inherited
    · rwa [hSame]
    · rw [hSet]
      have hSame : ∀ name ≠ "type",
          (fragment.set "type" inherited).get? name = fragment.get? name := by
        intro name hName
        rw [Members.get?_set, if_neg hName]
      apply Throughout.of_parts
      · intro _ type hGet
        rw [Members.get?_set, if_pos rfl] at hGet
        cases hGet
        exact hType
      · rw [parts_congr hSame]
        exact fun v hMem => Throughout.of_mem_parts h hMem

end LendsNames

end Json

end SchemaOutline
