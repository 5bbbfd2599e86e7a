import SchemaOutline.Proofs.Fragment.Folded

/-!
# Other names for properties

`Json.respelt` gives the properties of a schema other names, wherever in it they are declared, and
leaves everything else as it is: keywords, plain data and the names of definitions. Names of
properties are never taken for keywords, so a fragment keeps its kind (`structuralKind_respelt`),
and if no two names become one, a folded schema with other names is the schema with other names
after folding (`foldAllOf?_respelt`).
-/

set_option autoImplicit false

namespace SchemaOutline

namespace Members

/-- Members with other names and other values, each as its name tells. -/
def mapBoth (naming : String → String) (change : String → Json → Json) (members : Members) :
    Members :=
  members.map fun (name, v) => (naming name, change name v)

variable {naming : String → String} {change : String → Json → Json}
  {combine other : String → Json → Json → Json}

theorem mapBoth_cons (name : String) (v : Json) (rest : Members) :
    mapBoth naming change ((name, v) :: rest) =
      (naming name, change name v) :: mapBoth naming change rest := rfl

theorem values_mapBoth (change : Json → Json) (members : Members) :
    (mapBoth naming (fun _ => change) members).values = members.values.map change := by
  simp [mapBoth, values, Function.comp_def]

section

variable (hNaming : Function.Injective naming)

include hNaming

theorem get?_mapBoth (members : Members) (name : String) :
    (mapBoth naming change members).get? (naming name) =
      (members.get? name).map (change name) := by
  induction members with
  | nil => rfl
  | cons member rest ih =>
    obtain ⟨first, v⟩ := member
    rw [mapBoth_cons, get?_cons, get?_cons, ih]
    by_cases hName : name = first
    · subst hName
      simp
    · rw [if_neg (by simpa using hNaming.ne hName), if_neg hName]

theorem set_mapBoth (members : Members) (name : String) (v : Json) :
    (mapBoth naming change members).set (naming name) (change name v) =
      mapBoth naming change (members.set name v) := by
  induction members with
  | nil => rfl
  | cons member rest ih =>
    obtain ⟨first, w⟩ := member
    rw [mapBoth_cons, set, set]
    by_cases hName : first = name
    · subst hName
      simp [mapBoth_cons]
    · rw [if_neg (by simpa using hNaming.ne hName), if_neg (by simpa using hName), mapBoth_cons, ih]

/-- Entering members with other names and values is what comes of entering the old ones, if the
values that are combined change in the same way. -/
theorem mergeWith_mapBoth {target source : Members}
    (hCombine : ∀ name present added, (name, added) ∈ source →
      other (naming name) (change name present) (change name added) =
        change name (combine name present added)) :
    mergeWith other (mapBoth naming change target) (mapBoth naming change source) =
      mapBoth naming change (mergeWith combine target source) := by
  induction source generalizing target with
  | nil => rfl
  | cons member rest ih =>
    obtain ⟨name, added⟩ := member
    have hEntered : ((mapBoth naming change target).get? (naming name)).elim (change name added)
        (other (naming name) · (change name added)) =
          change name ((target.get? name).elim added (combine name · added)) := by
      rw [get?_mapBoth hNaming]
      cases target.get? name with
      | none => rfl
      | some present => exact hCombine name present added List.mem_cons_self
    rw [mapBoth_cons, mergeWith, mergeWith, hEntered, set_mapBoth hNaming]
    exact ih fun name present added hMem =>
      hCombine name present added (List.mem_cons_of_mem _ hMem)

end

end Members

namespace Json

open Fragment

/-- How the names in a map of schemas are spelled: only those of properties change. -/
def nameUnder (f : String → String) (keyword : String) : String → String :=
  if propertyKeywords.contains keyword then f else id

mutual
/-- A schema with other names for its properties, at every depth. -/
def respelt (f : String → String) : Json → Json
  | .obj fragment => .obj (respeltMembers f fragment)
  | v => v

def respeltMembers (f : String → String) : List (String × Json) → List (String × Json)
  | [] => []
  | (keyword, .obj inner) :: rest =>
    (keyword,
      if namedSchemaKeywords.contains keyword then
        .obj (respeltNamed f (nameUnder f keyword) inner)
      else if schemaKeywords.contains keyword then .obj (respeltMembers f inner)
      else .obj inner) :: respeltMembers f rest
  | (keyword, .arr items) :: rest =>
    (keyword,
      if schemaListKeywords.contains keyword || schemaKeywords.contains keyword then
        .arr (respeltItems f items)
      else .arr items) :: respeltMembers f rest
  | (keyword, v) :: rest => (keyword, v) :: respeltMembers f rest

def respeltNamed (f naming : String → String) : List (String × Json) → List (String × Json)
  | [] => []
  | (name, v) :: rest => (naming name, respelt f v) :: respeltNamed f naming rest

def respeltItems (f : String → String) : List Json → List Json
  | [] => []
  | v :: rest => respelt f v :: respeltItems f rest
end

/-- What becomes of the value under a keyword of a fragment. -/
def respeltUnder (f : String → String) (keyword : String) : Json → Json
  | .obj inner =>
    if namedSchemaKeywords.contains keyword then
      .obj (respeltNamed f (nameUnder f keyword) inner)
    else if schemaKeywords.contains keyword then (obj inner).respelt f
    else .obj inner
  | .arr items =>
    if schemaListKeywords.contains keyword || schemaKeywords.contains keyword then
      .arr (respeltItems f items)
    else .arr items
  | v => v

variable {f naming : String → String} {members : Members} {keyword : String} {v : Json}

theorem respeltNamed_eq_mapBoth (members : Members) :
    respeltNamed f naming members = members.mapBoth naming fun _ => respelt f := by
  induction members with
  | nil => rw [respeltNamed, Members.mapBoth, List.map_nil]
  | cons member rest ih => rw [respeltNamed, ih, Members.mapBoth_cons]

theorem respeltItems_eq_map (items : List Json) : respeltItems f items = items.map (respelt f) := by
  induction items with
  | nil => rw [respeltItems, List.map_nil]
  | cons v rest ih => rw [respeltItems, ih, List.map_cons]

theorem respeltMembers_eq_mapBoth (members : Members) :
    respeltMembers f members = members.mapBoth id (respeltUnder f) := by
  induction members with
  | nil => rw [respeltMembers, Members.mapBoth, List.map_nil]
  | cons member rest ih =>
    obtain ⟨keyword, v⟩ := member
    cases v <;> simp only [respeltMembers, ih, Members.mapBoth_cons, respeltUnder, respelt, id]

theorem get?_respeltMembers (members : Members) (keyword : String) :
    Members.get? (respeltMembers f members) keyword =
      (members.get? keyword).map (respeltUnder f keyword) := by
  rw [respeltMembers_eq_mapBoth]
  exact Members.get?_mapBoth Function.injective_id members keyword

theorem get_respeltMembers (members : Members) (keyword : String) :
    Members.get (respeltMembers f members) keyword =
      respeltUnder f keyword (members.get keyword) := by
  unfold Members.get
  rw [get?_respeltMembers]
  cases members.get? keyword with
  | none => rfl
  | some v => rfl

theorem has_respeltMembers (members : Members) (keyword : String) :
    Members.has (respeltMembers f members) keyword = members.has keyword := by
  rw [Members.has, get?_respeltMembers, Option.isSome_map, Members.has]

theorem set_respeltMembers (members : Members) (keyword : String) (v : Json) :
    Members.set (respeltMembers f members) keyword (respeltUnder f keyword v) =
      respeltMembers f (members.set keyword v) := by
  rw [respeltMembers_eq_mapBoth, respeltMembers_eq_mapBoth]
  exact Members.set_mapBoth Function.injective_id members keyword v

/-- The keywords under which there are schemas. -/
def schemaPositions : List String := namedSchemaKeywords ++ schemaListKeywords ++ schemaKeywords

/-- Under any other keyword there is plain data, which stays. -/
theorem respeltUnder_of_notMem (hKeyword : keyword ∉ schemaPositions) (v : Json) :
    respeltUnder f keyword v = v := by
  simp only [schemaPositions, List.mem_append, not_or] at hKeyword
  cases v <;> simp [respeltUnder, hKeyword]

theorem members?_respelt (v : Json) :
    (v.respelt f).members? = v.members?.map (respeltMembers f) := by
  cases v <;> simp [respelt, members?]

theorem members?_respeltUnder (hKeyword : keyword ∈ propertyKeywords) (v : Json) :
    (respeltUnder f keyword v).members? = v.members?.map (respeltNamed f f) := by
  have hNamed : ∀ keyword ∈ propertyKeywords, keyword ∈ namedSchemaKeywords := by decide
  cases v with
  | obj inner => simp [respeltUnder, nameUnder, hNamed keyword hKeyword, hKeyword, members?]
  | arr items =>
    rw [respeltUnder]
    split <;> rfl
  | _ => rfl

theorem items?_respeltUnder (hKeyword : keyword ∈ schemaListKeywords ∨ keyword ∈ schemaKeywords)
    (v : Json) : (respeltUnder f keyword v).items? = v.items?.map (List.map (respelt f)) := by
  cases v with
  | obj inner =>
    rw [respeltUnder]
    split
    · rfl
    · split
      · rw [respelt]
        rfl
      · rfl
  | arr items => simp [respeltUnder, hKeyword, items?, respeltItems_eq_map]
  | _ => rfl

theorem respeltUnder_items_obj (inner : Members) :
    respeltUnder f "items" (.obj inner) = .obj (respeltMembers f inner) := by
  rw [respeltUnder, if_neg (by decide), if_pos (by decide), respelt]

theorem respeltUnder_items_arr (items : List Json) :
    respeltUnder f "items" (.arr items) = .arr (items.map (respelt f)) := by
  rw [respeltUnder, if_pos (by decide), respeltItems_eq_map]

end Json

/-! ### Names of properties are not looked at -/

namespace Fragment

open Json

variable {f : String → String}

theorem get_respelt_of_notMem {keyword : String} (hKeyword : keyword ∉ schemaPositions)
    (fragment : Members) :
    Members.get (respeltMembers f fragment) keyword = fragment.get keyword := by
  rw [get_respeltMembers, respeltUnder_of_notMem hKeyword]

theorem combiner?_respelt (fragment : Members) :
    combiner? (respeltMembers f fragment) = combiner? fragment := by
  simp only [combiner?, has_respeltMembers]

theorem declaresType_respelt (fragment : Members) (name : String) :
    declaresType (respeltMembers f fragment) name = declaresType fragment name := by
  rw [declaresType, get_respelt_of_notMem (by decide), declaresType]

theorem structuralKind_respelt (fragment : Members) :
    structuralKind (respeltMembers f fragment) = structuralKind fragment := by
  simp only [structuralKind, combiner?_respelt, declaresType_respelt, has_respeltMembers]

theorem isReference_respelt (fragment : Members) :
    isReference (respeltMembers f fragment) = isReference fragment := by
  rw [isReference, get_respelt_of_notMem (by decide), has_respeltMembers, isReference]

end Fragment

namespace Json

open Fragment

variable {f : String → String}

/-- A type is plain data, so a branch takes it over under other names as well. -/
theorem inheriting_respelt (v inherited : Json) :
    (v.respelt f).inheriting inherited = (v.inheriting inherited).respelt f := by
  cases v with
  | obj fragment =>
    have hType : Members.set (respeltMembers f fragment) "type" inherited =
        respeltMembers f (Members.set fragment "type" inherited) := by
      have hSet := @set_respeltMembers f fragment "type" inherited
      rwa [respeltUnder_of_notMem (by decide)] at hSet
    simp only [respelt, inheriting, inheriting?, members?, Option.bind_some, withInherited?,
      get_respelt_of_notMem (show "type" ∉ schemaPositions by decide), isReference_respelt, hType]
    split
    · rw [Option.map_none, Option.getD_none, Option.getD_none, respelt]
    · rw [Option.map_some, Option.map_some, Option.getD_some, Option.getD_some, respelt]
  | _ => rfl

end Json

/-! ### Folding under other names -/

namespace Fragment

open Json

variable {f : String → String}

theorem respeltUnder_property_obj {keyword : String} (hKeyword : keyword ∈ propertyKeywords)
    (named : Members) : respeltUnder f keyword (.obj named) = .obj (respeltNamed f f named) := by
  rw [← members?_eq_some_iff, members?_respeltUnder hKeyword]
  rfl

theorem combined_arr {keyword : String} (hKeyword : keyword ≠ "required") (present : Json)
    (items : List Json) : combined keyword present (.arr items) = present := by
  cases present <;> simp [combined, hKeyword]

mutual

theorem absorb_respelt (hf : Function.Injective f) (target source : Members) :
    absorb (respeltMembers f target) (respeltMembers f source) =
      respeltMembers f (absorb target source) := by
  simp only [absorb_eq, respeltMembers_eq_mapBoth]
  apply Members.mergeWith_mapBoth Function.injective_id
  intro keyword present added hMem
  rw [id]
  by_cases hProperty : keyword ∈ propertyKeywords
  · cases added with
    | obj named =>
      have hEntries := absorbNamed_respelt hf (present.members?.getD []) named
      have hPresent : (respeltUnder f keyword present).members?.getD [] =
          respeltNamed f f (present.members?.getD []) := by
        rw [members?_respeltUnder hProperty]
        cases present.members? with
        | none => rw [Option.map_none, Option.getD_none, respeltNamed]
        | some inner => rfl
      have hHere : propertyKeywords.contains keyword = true := List.contains_iff_mem.mpr hProperty
      rw [respeltUnder_property_obj hProperty, combined, if_pos hHere, hPresent, hEntries, combined,
        if_pos hHere, respeltUnder_property_obj hProperty]
    | arr items =>
      have hOther : keyword ≠ "required" := by
        rintro rfl
        exact absurd hProperty (by decide)
      obtain ⟨others, hOthers⟩ : ∃ others, respeltUnder f keyword (.arr items) = .arr others := by
        rw [respeltUnder]
        split <;> exact ⟨_, rfl⟩
      rw [hOthers, combined_arr hOther, combined_arr hOther]
    | _ => rfl
  · by_cases hRequired : keyword = "required"
    · subst hRequired
      simp only [respeltUnder_of_notMem (show "required" ∉ schemaPositions by decide)]
    · rw [combined_of_other hProperty hRequired, combined_of_other hProperty hRequired]
termination_by sizeOf source
decreasing_by
  have hLt := List.sizeOf_lt_of_mem hMem
  simp only [Prod.mk.sizeOf_spec, Json.obj.sizeOf_spec] at hLt
  omega

theorem absorbNamed_respelt (hf : Function.Injective f) (target named : Members) :
    absorbNamed (respeltNamed f f target) (respeltNamed f f named) =
      respeltNamed f f (absorbNamed target named) := by
  simp only [absorbNamed_eq, respeltNamed_eq_mapBoth]
  apply Members.mergeWith_mapBoth hf
  intro name present added hMem
  cases added with
  | obj fragment =>
    cases present with
    | obj own =>
      simp only [respelt, combinedEntry]
      rw [absorb_respelt hf own fragment]
    | _ => rfl
  | _ => cases present <;> rfl
termination_by sizeOf named
decreasing_by
  have hLt := List.sizeOf_lt_of_mem hMem
  simp only [Prod.mk.sizeOf_spec, Json.obj.sizeOf_spec] at hLt
  omega

end

theorem foldl_absorb_respelt (hf : Function.Injective f) (start : Members)
    (branches : List Members) :
    (branches.map (respeltMembers f)).foldl absorb (respeltMembers f start) =
      respeltMembers f (branches.foldl absorb start) := by
  induction branches generalizing start with
  | nil => rfl
  | cons branch rest ih =>
    rw [List.map_cons, List.foldl_cons, List.foldl_cons, absorb_respelt hf, ih]

theorem foldableBranch?_respelt (v : Json) :
    foldableBranch? (v.respelt f) = (foldableBranch? v).map (respeltMembers f) := by
  unfold foldableBranch?
  rw [members?_respelt]
  cases v.members? with
  | none => rfl
  | some fragment =>
    simp only [Option.map_some, Option.bind_some, has_respeltMembers]
    split <;> rfl

theorem mapM_foldableBranch?_respelt (items : List Json) :
    (items.map (respelt f)).mapM foldableBranch? =
      (items.mapM foldableBranch?).map (List.map (respeltMembers f)) := by
  induction items with
  | nil => rfl
  | cons item rest ih =>
    rw [List.map_cons, List.mapM_cons, List.mapM_cons, ih, foldableBranch?_respelt]
    cases foldableBranch? item with
    | none => rfl
    | some branch => cases rest.mapM foldableBranch? <;> rfl

theorem foldableBranches?_respelt (fragment : Members) :
    foldableBranches? (Members.get (respeltMembers f fragment) "allOf") =
      (foldableBranches? (fragment.get "allOf")).map (List.map (respeltMembers f)) := by
  rw [get_respeltMembers]
  cases fragment.get "allOf" with
  | arr items =>
    rw [respeltUnder, if_pos (by decide), respeltItems_eq_map]
    cases items with
    | nil => rfl
    | cons item rest => exact mapM_foldableBranch?_respelt (item :: rest)
  | _ => rfl

theorem erase_respelt (fragment : Members) (keyword : String) :
    Members.erase (respeltMembers f fragment) keyword =
      respeltMembers f (fragment.erase keyword) := by
  simp only [respeltMembers_eq_mapBoth, Members.mapBoth, Members.erase, List.filter_map]
  rfl

theorem foldOwn_respelt (hf : Function.Injective f) (fragment : Members) :
    foldOwn (respeltMembers f fragment) = respeltMembers f (foldOwn fragment) := by
  unfold foldOwn
  rw [foldableBranches?_respelt]
  cases foldableBranches? (fragment.get "allOf") with
  | none => rfl
  | some branches =>
    rw [Option.map_some, erase_respelt]
    exact foldl_absorb_respelt hf _ branches

end Fragment

namespace Json

open Fragment

variable {f : String → String}

mutual

theorem foldAllOf_respelt (hf : Function.Injective f) (v : Json) :
    (v.respelt f).foldAllOf = v.foldAllOf.respelt f := by
  cases v with
  | obj fragment =>
    rw [respelt, foldAllOf, foldAllOf, respelt, foldMembers_respelt hf fragment,
      foldOwn_respelt hf]
  | _ => rfl

theorem foldMembers_respelt (hf : Function.Injective f) (members : Members) :
    foldMembers (respeltMembers f members) = respeltMembers f (foldMembers members) := by
  cases members with
  | nil => simp only [respeltMembers, foldMembers]
  | cons member rest =>
    obtain ⟨keyword, v⟩ := member
    have hRest := foldMembers_respelt hf rest
    cases v with
    | obj inner =>
      simp only [respeltMembers, foldMembers]
      by_cases hNamed : namedSchemaKeywords.contains keyword = true
      · simp only [if_pos hNamed, foldMembers, respeltMembers, hRest]
        rw [foldNamed_respelt hf (nameUnder f keyword) inner]
      · by_cases hSchema : schemaKeywords.contains keyword = true
        · simp only [if_neg hNamed, if_pos hSchema, foldMembers, respeltMembers, hRest]
          rw [foldMembers_respelt hf inner, foldOwn_respelt hf]
        · simp only [if_neg hNamed, if_neg hSchema, foldMembers, respeltMembers, hRest]
    | arr items =>
      simp only [respeltMembers, foldMembers]
      by_cases hListed :
          (schemaListKeywords.contains keyword || schemaKeywords.contains keyword) = true
      · simp only [if_pos hListed, foldMembers, respeltMembers, hRest]
        rw [foldItems_respelt hf items]
      · simp only [if_neg hListed, foldMembers, respeltMembers, hRest]
    | _ => simp only [respeltMembers, foldMembers, hRest]

theorem foldNamed_respelt (hf : Function.Injective f) (naming : String → String)
    (members : Members) :
    foldNamed (respeltNamed f naming members) = respeltNamed f naming (foldNamed members) := by
  cases members with
  | nil => simp only [respeltNamed, foldNamed]
  | cons member rest =>
    obtain ⟨name, v⟩ := member
    simp only [respeltNamed, foldNamed, foldAllOf_respelt hf v,
      foldNamed_respelt hf naming rest]

theorem foldItems_respelt (hf : Function.Injective f) (items : List Json) :
    foldItems (respeltItems f items) = respeltItems f (foldItems items) := by
  cases items with
  | nil => simp only [respeltItems, foldItems]
  | cons v rest => simp only [respeltItems, foldItems, foldAllOf_respelt hf v,
      foldItems_respelt hf rest]

end

mutual

theorem foldDepth_respelt (v : Json) : (v.respelt f).foldDepth = v.foldDepth := by
  cases v with
  | obj fragment => rw [respelt, foldDepth, foldDepth, foldDepthOfMembers_respelt fragment]
  | _ => rfl

theorem foldDepthOfMembers_respelt (members : Members) :
    foldDepthOfMembers (respeltMembers f members) = foldDepthOfMembers members := by
  cases members with
  | nil => simp only [respeltMembers]
  | cons member rest =>
    obtain ⟨keyword, v⟩ := member
    have hRest := foldDepthOfMembers_respelt rest
    cases v with
    | obj inner =>
      simp only [respeltMembers, foldDepthOfMembers]
      by_cases hNamed : namedSchemaKeywords.contains keyword = true
      · simp only [if_pos hNamed, foldDepthOfMembers, hRest]
        rw [foldDepthOfNamed_respelt (nameUnder f keyword) inner]
      · by_cases hSchema : schemaKeywords.contains keyword = true
        · simp only [if_neg hNamed, if_pos hSchema, foldDepthOfMembers, hRest]
          rw [foldDepthOfMembers_respelt inner]
        · simp only [if_neg hNamed, if_neg hSchema, foldDepthOfMembers, hRest]
    | arr items =>
      simp only [respeltMembers, foldDepthOfMembers]
      by_cases hListed :
          (schemaListKeywords.contains keyword || schemaKeywords.contains keyword) = true
      · simp only [if_pos hListed, foldDepthOfMembers, hRest]
        rw [foldDepthOfItems_respelt items]
      · simp only [if_neg hListed, foldDepthOfMembers, hRest]
    | _ => simp only [respeltMembers, foldDepthOfMembers, hRest]

theorem foldDepthOfNamed_respelt (naming : String → String) (members : Members) :
    foldDepthOfNamed (respeltNamed f naming members) = foldDepthOfNamed members := by
  cases members with
  | nil => simp only [respeltNamed]
  | cons member rest =>
    obtain ⟨name, v⟩ := member
    simp only [respeltNamed, foldDepthOfNamed, foldDepth_respelt v,
      foldDepthOfNamed_respelt naming rest]

theorem foldDepthOfItems_respelt (items : List Json) :
    foldDepthOfItems (respeltItems f items) = foldDepthOfItems items := by
  cases items with
  | nil => simp only [respeltItems]
  | cons v rest =>
    simp only [respeltItems, foldDepthOfItems, foldDepth_respelt v, foldDepthOfItems_respelt rest]

end

/-- A schema under other names is folded like the schema itself, and both are too deep or neither
is. -/
theorem foldAllOf?_respelt (hf : Function.Injective f) (v : Json) :
    (v.respelt f).foldAllOf? = v.foldAllOf?.map (respelt f) := by
  rw [foldAllOf?, foldDepth_respelt, foldAllOf_respelt hf, foldAllOf?]
  split <;> rfl

end Json

end SchemaOutline
