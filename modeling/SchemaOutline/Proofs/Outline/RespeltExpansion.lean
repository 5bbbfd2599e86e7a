import SchemaOutline.Proofs.Outline.Respelling
import SchemaOutline.Proofs.Outline.Target

/-!
# Expansions under other names

The steps of a location show which of them are names of properties: those behind a keyword for
properties, seen from the root (`Location.respelt`). The expansion of a summary under other names
has the same parts in the same order, at locations in which just these steps have changed
(`ofSummary_respelt`).
-/

set_option autoImplicit false

namespace SchemaOutline

open Json Fragment

variable {f : String → String}

/-! ### Locations -/

namespace Location

/-- A location in which the names of properties are spelled in another way: each is the step behind
a keyword for properties, seen from the root. -/
def respelt (f : String → String) : Location → Location
  | .key keyword :: .key name :: rest =>
    if propertyKeywords.contains keyword then .key keyword :: .key (f name) :: respelt f rest
    else .key keyword :: respelt f (.key name :: rest)
  | step :: rest => step :: respelt f rest
  | [] => []

@[simp]
theorem length_respelt (location : Location) :
    (location.respelt f).length = location.length := by
  induction location using respelt.induct with
  | case1 keyword name rest hProperty ih =>
    rw [respelt, if_pos hProperty, List.length_cons, List.length_cons, ih]
    rfl
  | case2 keyword name rest hOther ih =>
    rw [respelt, if_neg hOther, List.length_cons, ih]
    rfl
  | case3 step rest _ ih =>
    rw [respelt, List.length_cons, ih]
    · rfl
    · assumption
  | case4 => rfl

/-- What follows a location is spelled as if it stood alone: no name is missing at the end. -/
def IsWhole (f : String → String) (location : Location) : Prop :=
  ∀ rest : Location, respelt f (location ++ rest) = location.respelt f ++ rest.respelt f

theorem isWhole_nil : IsWhole f [] := fun _ => rfl

theorem respelt_index (i : Int) (rest : Location) :
    respelt f (.index i :: rest) = .index i :: rest.respelt f := rfl

theorem respelt_keyword {keyword : String} (hKeyword : keyword ∉ propertyKeywords)
    (rest : Location) : respelt f (.key keyword :: rest) = .key keyword :: rest.respelt f := by
  cases rest with
  | nil => rfl
  | cons step rest =>
    cases step with
    | key name => rw [respelt, if_neg (by simpa using hKeyword)]
    | index i => rfl

theorem respelt_property {keyword : String} (hKeyword : keyword ∈ propertyKeywords) (name : String)
    (rest : Location) : respelt f (.key keyword :: .key name :: rest) =
      .key keyword :: .key (f name) :: rest.respelt f := by
  rw [respelt, if_pos (by simpa using hKeyword)]

variable {first second : Location}

theorem IsWhole.respelt_position (h : IsWhole f first) {keyword : String}
    (hKeyword : keyword ∉ propertyKeywords) (i : Int) :
    respelt f (first ++ [.key keyword, .index i]) =
      first.respelt f ++ [.key keyword, .index i] := by
  rw [h, respelt_keyword hKeyword]
  rfl

theorem IsWhole.respelt_name (h : IsWhole f first) {keyword : String}
    (hKeyword : keyword ∈ propertyKeywords) (name : String) :
    respelt f (first ++ [.key keyword, .key name]) =
      first.respelt f ++ [.key keyword, .key (f name)] := by
  rw [h, respelt_property hKeyword]
  rfl

theorem IsWhole.append (hFirst : IsWhole f first) (hSecond : IsWhole f second) :
    IsWhole f (first ++ second) := by
  intro rest
  rw [List.append_assoc, hFirst, hSecond, hFirst, List.append_assoc]

theorem isWhole_items : IsWhole f [.key "items"] :=
  fun rest => respelt_keyword (by decide) rest

theorem isWhole_position {keyword : String} (hKeyword : keyword ∉ propertyKeywords) (i : Int) :
    IsWhole f [.key keyword, .index i] := by
  intro rest
  simp only [List.cons_append, List.nil_append, respelt_keyword hKeyword, respelt_index]
  rfl

theorem isWhole_property {keyword : String} (hKeyword : keyword ∈ propertyKeywords)
    (name : String) : IsWhole f [.key keyword, .key name] := by
  intro rest
  simp only [List.cons_append, List.nil_append, respelt_property hKeyword]
  rfl

end Location

/-! ### Expansions -/

def Descent.respelt (f : String → String) (descent : Descent) : Descent :=
  ⟨Location.respelt f descent.steps, descent.value.respelt f, descent.inherited⟩

namespace Expansion

def respelt (f : String → String) (expansion : Expansion) : Expansion :=
  { expansion with descents := expansion.descents.map (Descent.respelt f) }

variable {lead : Location}

theorem ofBranches_respelt (hLead : lead.IsWhole f) (c : Combiner) (branches : List Json)
    (type : Json) :
    ofBranches (lead.respelt f) c (branches.map (Json.respelt f)) type =
      (ofBranches lead c branches type).respelt f := by
  have hKeyword : c.keyword ∉ propertyKeywords := by cases c <;> decide
  simp only [ofBranches, respelt, List.zipIdx_map, List.map_map, Location.length_respelt]
  congr 1
  apply List.map_congr_left
  rintro ⟨branch, i⟩ -
  simp only [Function.comp_apply, Prod.map_apply, id_eq, Descent.respelt, inheriting_respelt,
    hLead.respelt_position hKeyword]

theorem ofTuple_respelt (hLead : lead.IsWhole f) (items : List Json) :
    ofTuple (lead.respelt f) (items.map (Json.respelt f)) = (ofTuple lead items).respelt f := by
  have hKeyword : "items" ∉ propertyKeywords := by decide
  simp only [ofTuple, respelt, List.zipIdx_map, List.map_map, Location.length_respelt]
  congr 1
  apply List.map_congr_left
  rintro ⟨item, i⟩ -
  simp only [Function.comp_apply, Prod.map_apply, id_eq, Descent.respelt,
    hLead.respelt_position hKeyword]

theorem ofNamed_respelt (hLead : lead.IsWhole f) {keyword : String}
    (hKeyword : keyword ∈ propertyKeywords) (named : Members) :
    ofNamed (lead.respelt f) keyword (respeltNamed f f named) =
      (ofNamed lead keyword named).map (Descent.respelt f) := by
  simp only [ofNamed, respeltNamed_eq_mapBoth, Members.mapBoth, List.map_map]
  apply List.map_congr_left
  rintro ⟨name, v⟩ -
  simp only [Function.comp_apply, Descent.respelt, hLead.respelt_name hKeyword]

theorem ofProperties_respelt (hLead : lead.IsWhole f)
    (properties patternProperties : Option Members) :
    ofProperties (lead.respelt f) (properties.map (respeltNamed f f))
        (patternProperties.map (respeltNamed f f)) =
      (ofProperties lead properties patternProperties).respelt f := by
  have hNamed (keyword : String) (hKeyword : keyword ∈ propertyKeywords)
      (named : Option Members) :
      ofNamed (lead.respelt f) keyword ((named.map (respeltNamed f f)).getD []) =
        (ofNamed lead keyword (named.getD [])).map (Descent.respelt f) := by
    cases named with
    | none => rfl
    | some named => exact ofNamed_respelt hLead hKeyword named
  simp only [ofProperties, respelt, Option.isSome_map, List.map_append, Location.length_respelt,
    hNamed "properties" (by decide), hNamed "patternProperties" (by decide)]

theorem leaf_respelt (lead : Location) : leaf (lead.respelt f) = (leaf lead).respelt f := by
  simp [leaf, respelt]

theorem ofItems_respelt (room : Nat) (hLead : lead.IsWhole f) (items : Json) :
    ofItems room (lead.respelt f) (respeltUnder f "items" items) =
      (ofItems room lead items).map (respelt f) := by
  induction room using Nat.strongRecOn generalizing lead items with
  | ind room ih =>
    cases items with
    | arr items =>
      rw [respeltUnder_items_arr, ofItems, ofItems, ofTuple_respelt hLead]
      rfl
    | obj inner =>
      have hInner := hLead.append Location.isWhole_items
      have hSteps :
          Location.respelt f (lead ++ [.key "items"]) = lead.respelt f ++ [.key "items"] := by
        rw [hLead]
        rfl
      rw [respeltUnder_items_obj]
      by_cases hRoom : room < callsInPlace
      · rw [ofItems_of_lt hRoom, ofItems_of_lt hRoom]
        rfl
      rw [ofItems, ofItems, if_neg hRoom, if_neg hRoom, structuralKind_respelt, ← hSteps]
      cases structuralKind inner with
      | array =>
        simp only [get_respeltMembers]
        exact ih _ (sub_callsInPlace_lt hRoom) hInner _
      | object =>
        simp only [get_respeltMembers,
          members?_respeltUnder (show "properties" ∈ propertyKeywords by decide),
          members?_respeltUnder (show "patternProperties" ∈ propertyKeywords by decide)]
        exact congrArg Except.ok (ofProperties_respelt hInner _ _)
      | combiner =>
        rw [combiner?_respelt]
        cases combiner? inner with
        | none => exact congrArg Except.ok (leaf_respelt _)
        | some c =>
          simp only [branches_respelt,
            get_respelt_of_notMem (show "type" ∉ schemaPositions by decide)]
          exact congrArg Except.ok (ofBranches_respelt hInner _ _ _)
      | _ => exact congrArg Except.ok (leaf_respelt _)
    | _ =>
      rw [ofItems_of_members?_eq_none _ _ _ rfl, ofItems_of_members?_eq_none _ _ _ rfl]
      exact congrArg Except.ok (leaf_respelt lead)

/-- No step of an expansion ends where a name is due. -/
def IsWhole (f : String → String) (expansion : Expansion) : Prop :=
  ∀ descent ∈ expansion.descents, Location.IsWhole f descent.steps

theorem isWhole_ofBranches (hLead : lead.IsWhole f) (c : Combiner) (branches : List Json)
    (type : Json) : (ofBranches lead c branches type).IsWhole f := by
  have hKeyword : c.keyword ∉ propertyKeywords := by cases c <;> decide
  intro descent hMem
  obtain ⟨⟨branch, i⟩, -, rfl⟩ := List.mem_map.mp hMem
  exact hLead.append (Location.isWhole_position hKeyword i)

theorem isWhole_ofTuple (hLead : lead.IsWhole f) (items : List Json) :
    (ofTuple lead items).IsWhole f := by
  intro descent hMem
  obtain ⟨⟨item, i⟩, -, rfl⟩ := List.mem_map.mp hMem
  exact hLead.append (Location.isWhole_position (by decide) i)

theorem isWhole_ofProperties (hLead : lead.IsWhole f)
    (properties patternProperties : Option Members) :
    (ofProperties lead properties patternProperties).IsWhole f := by
  intro descent hMem
  rcases List.mem_append.mp hMem with hMem | hMem
  · obtain ⟨⟨name, v⟩, -, rfl⟩ := List.mem_map.mp hMem
    exact hLead.append (Location.isWhole_property (by decide) name)
  · obtain ⟨⟨name, v⟩, -, rfl⟩ := List.mem_map.mp hMem
    exact hLead.append (Location.isWhole_property (by decide) name)

theorem isWhole_leaf (lead : Location) : (leaf lead).IsWhole f := nofun

theorem isWhole_ofItems {room : Nat} (hLead : lead.IsWhole f) {items : Json}
    {expansion : Expansion} (h : ofItems room lead items = .ok expansion) :
    expansion.IsWhole f := by
  induction room using Nat.strongRecOn generalizing lead items with
  | ind room ih =>
    cases items with
    | arr items =>
      rw [ofItems] at h
      cases h
      exact isWhole_ofTuple hLead items
    | obj inner =>
      have hInner := hLead.append Location.isWhole_items
      by_cases hRoom : room < callsInPlace
      · rw [ofItems_of_lt hRoom] at h
        cases h
      rw [ofItems, if_neg hRoom] at h
      split at h
      · exact ih _ (sub_callsInPlace_lt hRoom) hInner h
      · cases h
        exact isWhole_ofProperties hInner _ _
      · split at h
        · cases h
          exact isWhole_ofBranches hInner _ _ _
        · cases h
          exact isWhole_leaf _
      · cases h
        exact isWhole_leaf _
    | _ =>
      rw [ofItems_of_members?_eq_none _ _ _ rfl] at h
      cases h
      exact isWhole_leaf lead

theorem isWhole_ofSummary {room : Nat} {summary : Summary} {expansion : Expansion}
    (h : ofSummary room summary = .ok expansion) : expansion.IsWhole f := by
  unfold ofSummary at h
  split at h
  · cases h
    exact isWhole_ofProperties Location.isWhole_nil _ _
  · exact isWhole_ofItems Location.isWhole_nil h
  · cases h
    exact isWhole_ofBranches Location.isWhole_nil _ _ _
  · cases h
    nofun
  · cases h
    exact isWhole_leaf []

theorem ofSummary_respelt (room : Nat) (summary : Summary) :
    ofSummary room (summary.respelt f) = (ofSummary room summary).map (respelt f) := by
  unfold ofSummary Summary.respelt
  cases summary.shape with
  | object properties patternProperties additionalProperties required =>
    exact congrArg Except.ok (ofProperties_respelt Location.isWhole_nil _ _)
  | array items additionalItems => exact ofItems_respelt room Location.isWhole_nil items
  | combiner c branches => exact congrArg Except.ok (ofBranches_respelt Location.isWhole_nil _ _ _)
  | reference target => rfl
  | scalar => rfl

end Expansion

end SchemaOutline
