import Mathlib.Data.List.Basic
import SchemaOutline.Proofs.Fragment.Folding
import SchemaOutline.Proofs.Fragment.Respelling
import SchemaOutline.Summary

/-!
# Counting and summarising under other names

Neither the counting of entries nor the search for `allOf` looks at the names of properties
(`entryCount_respelt`, `mentionsAllOf_respelt`). In a summary other names show only in the parts
that lead further down (`ofFragment_respelt`).
-/

set_option autoImplicit false

namespace SchemaOutline

open Json Fragment

variable {f : String → String}

/-! ### Estimates -/

def Held.respelt (f : String → String) (held : Held) : Held :=
  { held with values := held.values.map (Json.respelt f) }

namespace Fragment

theorem values_respeltUnder {keyword : String} (hKeyword : keyword ∈ propertyKeywords) (v : Json) :
    ((respeltUnder f keyword v).members?.getD []).values =
      (v.members?.getD []).values.map (respelt f) := by
  rw [members?_respeltUnder hKeyword]
  cases v.members? with
  | none => rfl
  | some named =>
    rw [Option.map_some, Option.getD_some, Option.getD_some, respeltNamed_eq_mapBoth,
      Members.values_mapBoth]

theorem listed_keyword (c : Combiner) : c.keyword ∈ schemaListKeywords := by
  cases c <;> decide

theorem branches_respelt (fragment : Members) (c : Combiner) :
    (Members.get (respeltMembers f fragment) c.keyword).items?.getD [] =
      ((fragment.get c.keyword).items?.getD []).map (respelt f) := by
  rw [get_respeltMembers, items?_respeltUnder (.inl (listed_keyword c))]
  cases (fragment.get c.keyword).items? <;> rfl

theorem held_respelt (room : Nat) (fragment : Members) :
    held room (respeltMembers f fragment) = (held room fragment).map (Held.respelt f) := by
  induction room using Nat.strongRecOn generalizing fragment with
  | ind room ih =>
    rw [held.eq_def, held.eq_def room fragment, combiner?_respelt, structuralKind_respelt]
    cases combiner? fragment with
    | some c =>
      simp only [branches_respelt, get_respelt_of_notMem (show "type" ∉ schemaPositions by decide),
        Except.map, Held.respelt, List.map_map, Function.comp_def, inheriting_respelt]
    | none =>
      cases structuralKind fragment with
      | array =>
        simp only [get_respeltMembers]
        cases fragment.get "items" with
        | arr items => rw [respeltUnder_items_arr]; rfl
        | obj inner =>
          rw [respeltUnder_items_obj]
          dsimp only
          split
          · rfl
          · rename_i hRoom
            rw [ih _ (sub_callsInPlace_lt hRoom) inner]
            cases held (room - callsInPlace) inner <;> rfl
        | _ => rfl
      | object =>
        simp only [get_respeltMembers, Except.map, Held.respelt, List.map_append,
          values_respeltUnder (show "properties" ∈ propertyKeywords by decide),
          values_respeltUnder (show "patternProperties" ∈ propertyKeywords by decide)]
      | _ => rfl

end Fragment

namespace Estimate

theorem countFrom_respelt (limit : Option Int) (room total : Nat) (v : Json) :
    countFrom limit room total (v.respelt f) = countFrom limit room total v := by
  induction room using Nat.strongRecOn generalizing total v with
  | ind room ih =>
    cases v with
    | obj fragment =>
      rw [respelt, countFrom, countFrom, combiner?_respelt, isReference_respelt, held_respelt]
      split
      · rfl
      split
      · rfl
      rename_i hRoom
      cases held (room - callsPerCount) fragment with
      | error failure => rfl
      | ok held =>
        have hFold : (held.values.map (respelt f)).foldlM
              (countFrom limit (held.roomBelow (room - callsPerCount))) (total + 1) =
            held.values.foldlM (countFrom limit (held.roomBelow (room - callsPerCount)))
              (total + 1) := by
          rw [List.foldlM_map]
          congr 1
          funext total v
          exact ih _ (held.roomBelow_lt hRoom) total v
        have hRespelt : (held.respelt f).roomBelow (room - callsPerCount) =
            held.roomBelow (room - callsPerCount) := rfl
        simp only [Except.map, bind, Except.bind, hRespelt]
        rw [Held.respelt, hFold]
    | _ => rfl

theorem entryCount_respelt (document : Json) (limit : Option Int) :
    entryCount (document.respelt f) limit = entryCount document limit := by
  rw [entryCount, countFrom_respelt, entryCount]

/-- What the search does with one member of a fragment. -/
def searchUnder (room : Nat) (member : String × Json) : Except Failure Bool :=
  if dataKeywords.contains member.1 then .ok false
  else
    match member.2 with
    | .obj named =>
      if namedSchemaKeywords.contains member.1 then named.anyM fun entry => findAllOf room entry.2
      else findAllOf room member.2
    | _ => findAllOf room member.2

theorem findAllOf_obj (room : Nat) (fragment : Members) :
    findAllOf (room + 1) (.obj fragment) =
      if (fragment.get "allOf").items?.isSome then .ok true
      else fragment.anyM (searchUnder room) := by
  rw [findAllOf]
  cases Members.get fragment "allOf" <;> rfl

theorem anyM_map_congr {α β : Type} {g : α → β} {p : β → Except Failure Bool}
    {q : α → Except Failure Bool} {l : List α} (h : ∀ a ∈ l, p (g a) = q a) :
    (l.map g).anyM p = l.anyM q := by
  induction l with
  | nil => rfl
  | cons a rest ih =>
    rw [List.map_cons, List.anyM_cons, List.anyM_cons, h a List.mem_cons_self,
      ih fun b hMem => h b (List.mem_cons_of_mem _ hMem)]

theorem searchUnder_respelt {room : Nat} (hValues : ∀ v : Json,
      findAllOf room (v.respelt f) = findAllOf room v ∧ ∀ items, v = .arr items →
        findAllOf room (.arr (items.map (respelt f))) = findAllOf room v)
    (member : String × Json) :
    searchUnder room (member.1, respeltUnder f member.1 member.2) = searchUnder room member := by
  obtain ⟨keyword, v⟩ := member
  cases v with
  | obj inner =>
    by_cases hNamed : keyword ∈ Fragment.namedSchemaKeywords
    · obtain ⟨hSearched, hData⟩ := keyword_of_named keyword hNamed
      have hInner : (respeltNamed f (nameUnder f keyword) inner).anyM
          (fun entry => findAllOf room entry.2) =
            inner.anyM fun entry => findAllOf room entry.2 := by
        rw [respeltNamed_eq_mapBoth]
        exact anyM_map_congr fun entry _ => (hValues entry.2).1
      simp [searchUnder, respeltUnder, hNamed, hSearched, hData, hInner]
    · by_cases hSchema : keyword ∈ schemaKeywords
      · obtain ⟨hSearched, hData⟩ := keyword_of_schema keyword (.inr hSchema)
        have hInner := (hValues (.obj inner)).1
        rw [respelt] at hInner
        simp [searchUnder, respeltUnder, respelt, hNamed, hSchema, hSearched, hData, hInner]
      · simp [searchUnder, respeltUnder, hNamed, hSchema]
  | arr items =>
    by_cases hListed : keyword ∈ schemaListKeywords ∨ keyword ∈ schemaKeywords
    · have hItems := (hValues (.arr items)).2 items rfl
      simp [searchUnder, respeltUnder, hListed, respeltItems_eq_map, hItems]
    · simp [searchUnder, respeltUnder, hListed]
  | _ => rfl

/-- The search goes into values under other names as it goes into the old ones, and also into
lists of them. -/
theorem findAllOf_respelt (room : Nat) (v : Json) :
    findAllOf room (v.respelt f) = findAllOf room v ∧
      ∀ items, v = .arr items →
        findAllOf room (.arr (items.map (respelt f))) = findAllOf room v := by
  induction room generalizing v with
  | zero =>
    constructor
    · rw [findAllOf, findAllOf]
    · intro items _
      rw [findAllOf, findAllOf]
  | succ room ih =>
    refine ⟨?own, ?listed⟩
    case listed =>
      rintro items rfl
      rw [findAllOf, findAllOf]
      exact anyM_map_congr fun item _ => (ih item).1
    case own =>
      cases v with
      | obj fragment =>
        have hMembers : (respeltMembers f fragment).anyM (searchUnder room) =
            fragment.anyM (searchUnder room) := by
          rw [respeltMembers_eq_mapBoth]
          exact anyM_map_congr fun member _ => searchUnder_respelt ih member
        rw [respelt, findAllOf_obj, findAllOf_obj, get_respeltMembers,
          items?_respeltUnder (.inl (by decide)), Option.isSome_map, hMembers]
      | _ => rfl

theorem mentionsAllOf_respelt (document : Json) :
    mentionsAllOf (document.respelt f) = mentionsAllOf document := by
  rw [mentionsAllOf, (findAllOf_respelt nestingLimit document).1, mentionsAllOf]

end Estimate

/-! ### Summaries -/

def Shape.respelt (f : String → String) : Shape → Shape
  | .object properties patternProperties additionalProperties required =>
    .object (properties.map (respeltNamed f f)) (patternProperties.map (respeltNamed f f))
      (respeltUnder f "additionalProperties" additionalProperties) required
  | .array items additionalItems =>
    .array (respeltUnder f "items" items) (respeltUnder f "additionalItems" additionalItems)
  | .combiner c branches => .combiner c (branches.map (Json.respelt f))
  | .reference target => .reference target
  | .scalar => .scalar

namespace Summary

def respelt (f : String → String) (summary : Summary) : Summary :=
  { summary with shape := summary.shape.respelt f }

@[simp] theorem kind_respelt (summary : Summary) : (summary.respelt f).kind = summary.kind := by
  unfold kind respelt
  cases summary.shape <;> rfl

theorem pick_respelt {keywords : List String}
    (hData : ∀ keyword ∈ keywords, keyword ∉ schemaPositions) (fragment : Members) :
    pick (respeltMembers f fragment) keywords = pick fragment keywords := by
  apply List.filterMap_congr
  intro keyword hMem
  rw [get?_respeltMembers]
  cases fragment.get? keyword with
  | none => rfl
  | some v => rw [Option.map_some, respeltUnder_of_notMem (hData keyword hMem)]

theorem notMem_of_isExtension {name : String} (h : isExtension name = true) :
    name ∉ schemaPositions := by
  intro hMem
  have hNone : ∀ name ∈ schemaPositions, isExtension name = false := by decide
  rw [hNone name hMem] at h
  cases h

theorem annotationsOf_respelt (fragment : Members) :
    annotationsOf (respeltMembers f fragment) = annotationsOf fragment := by
  rw [annotationsOf, pick_respelt (by decide), annotationsOf]
  congr 1
  induction fragment with
  | nil => rw [respeltMembers]
  | cons member rest ih =>
    rw [respeltMembers_eq_mapBoth] at ih ⊢
    obtain ⟨name, v⟩ := member
    rw [Members.mapBoth_cons]
    by_cases hName : isExtension name = true
    · rw [List.filter_cons_of_pos (by exact hName), List.filter_cons_of_pos (by exact hName), ih,
        respeltUnder_of_notMem (notMem_of_isExtension hName)]
      rfl
    · rw [List.filter_cons_of_neg (by exact hName), List.filter_cons_of_neg (by exact hName), ih]

theorem validationsOf_respelt (fragment : Members) :
    validationsOf (respeltMembers f fragment) = validationsOf fragment :=
  pick_respelt (by decide) fragment

theorem requiredOf_respelt (fragment : Members) :
    requiredOf (respeltMembers f fragment) = requiredOf fragment := by
  rw [requiredOf, get_respelt_of_notMem (by decide), requiredOf]

theorem ofFragment_respelt (id : String) (fragment : Members) (inherited : Json) :
    ofFragment id (respeltMembers f fragment) inherited =
      (ofFragment id fragment inherited).map (respelt f) := by
  unfold ofFragment
  rw [combiner?_respelt, isReference_respelt, structuralKind_respelt, annotationsOf_respelt,
    validationsOf_respelt, requiredOf_respelt, get_respelt_of_notMem (by decide),
    get_respelt_of_notMem (by decide), get_respelt_of_notMem (by decide)]
  cases combiner? fragment with
  | some c =>
    simp only [branches_respelt]
    rfl
  | none =>
    simp only
    split
    · rfl
    · cases structuralKind fragment with
      | array =>
        simp only [get_respeltMembers]
        rfl
      | object =>
        cases requiredOf fragment with
        | error failure => rfl
        | ok required =>
          simp only [get_respeltMembers,
            members?_respeltUnder (show "properties" ∈ propertyKeywords by decide),
            members?_respeltUnder (show "patternProperties" ∈ propertyKeywords by decide)]
          rfl
      | _ => rfl

end Summary

end SchemaOutline
