import Mathlib.Data.List.Induction
import SchemaOutline.Proofs.Fragment.Associating
import SchemaOutline.Proofs.Fragment.Residue

/-!
# What several fragments come to

Several fragments are absorbed in one, each in its turn. `Fragment.Joined` says in closed form what
they come to, whatever stands under the keywords: its names, and what is found under each of them as
a function of all that the fragments declare there, in order. Entering one list of members after
another looks up as the values of one name, combined in order (`Members.get?_foldl_mergeWith`), and
each way of combining has a closed form of its own.
-/

set_option autoImplicit false

namespace SchemaOutline

theorem eraseDups_eq_self {names : List String} (h : names.Nodup) : names.eraseDups = names := by
  induction names with
  | nil => rfl
  | cons name rest ih =>
    obtain ⟨hFresh, hRest⟩ := List.nodup_cons.mp h
    have hOthers : (rest.filter fun other => !other == name) = rest := by
      apply List.filter_eq_self.mpr
      intro other hMem
      have hNe : other ≠ name := fun hEq => hFresh (hEq ▸ hMem)
      simpa using hNe
    rw [List.eraseDups_cons, hOthers, ih hRest]

theorem appendNew_eraseDups (first : List String) {second : List String} (hSecond : second.Nodup) :
    appendNew first.eraseDups second = (first ++ second).eraseDups := by
  have hFresh : (second.removeAll first).Nodup := hSecond.sublist List.filter_sublist
  rw [List.eraseDups_append, eraseDups_eq_self hFresh, appendNew, List.removeAll]
  congr 1
  apply List.filter_congr
  intro name _
  rw [List.elem_eq_contains, Bool.not_inj_iff, Bool.eq_iff_iff, List.contains_iff_mem,
    List.contains_iff_mem, List.mem_eraseDups]

/-- All values combined in order, each one with what those before it have come to. -/
def combinedAll (combine : Json → Json → Json) : List Json → Option Json
  | [] => none
  | first :: rest => some (rest.foldl combine first)

theorem combinedAll_concat (combine : Json → Json → Json) (values : List Json) (v : Json) :
    combinedAll combine (values ++ [v]) =
      Option.merge combine (combinedAll combine values) (some v) := by
  cases values with
  | nil => rfl
  | cons first rest => simp [combinedAll]

namespace Members

variable {combine : String → Json → Json → Json} {start : Members} {sources : List Members}

/-- The values that stand under a name in several lists of members, in order. -/
def declared (sources : List Members) (name : String) : List Json :=
  sources.filterMap fun members => members.get? name

theorem names_foldl_mergeWith (hStart : start.names.Nodup)
    (hSources : ∀ source ∈ sources, source.names.Nodup) :
    (sources.foldl (mergeWith combine) start).names =
      ((start :: sources).flatMap names).eraseDups := by
  induction sources using List.reverseRecOn with
  | nil => simp [eraseDups_eq_self hStart]
  | append_singleton before source ih =>
    obtain ⟨hBefore, hSource⟩ := List.forall_mem_append.mp hSources
    have hNames : source.names.Nodup := hSource source List.mem_cons_self
    rw [List.foldl_append, List.foldl_cons, List.foldl_nil, names_mergeWith hNames, ih hBefore,
      appendNew_eraseDups _ hNames, ← List.cons_append, List.flatMap_append]
    simp

theorem get?_foldl_mergeWith (hSources : ∀ source ∈ sources, source.names.Nodup) (name : String) :
    (sources.foldl (mergeWith combine) start).get? name =
      combinedAll (combine name) (declared (start :: sources) name) := by
  induction sources using List.reverseRecOn with
  | nil => cases h : start.get? name <;> simp [declared, combinedAll, h]
  | append_singleton before source ih =>
    obtain ⟨hBefore, hSource⟩ := List.forall_mem_append.mp hSources
    have hDeclared : declared (start :: (before ++ [source])) name =
        declared (start :: before) name ++ (source.get? name).toList := by
      rw [declared, declared, ← List.cons_append, List.filterMap_append]
      cases h : source.get? name <;> simp [h]
    rw [List.foldl_append, List.foldl_cons, List.foldl_nil,
      get?_mergeWith (hSource source List.mem_cons_self), ih hBefore, hDeclared]
    cases source.get? name with
    | none => simp
    | some v => exact (combinedAll_concat _ _ v).symm

end Members

namespace Fragment

open Members

variable {fragment : Members} {fragments : List Members} {keyword : String} {first : Json}
  {rest values : List Json}

/-- What the entries of one name come to. One that is no fragment stays if it is the first, and the
others are left out. -/
def joinedEntry : List Json → Option Json
  | [] => none
  | .obj first :: rest => some (.obj ((rest.filterMap Json.members?).foldl absorb first))
  | v :: _ => some v

/-- What several lists add to the items that are present, list by list: whatever is not there yet
when its list begins. -/
def additions (present : List Json) : List (List Json) → List Json
  | [] => []
  | items :: rest =>
    let fresh := items.filter fun item => !present.any (item.agrees ·)
    fresh ++ additions (present ++ fresh) rest

/-- What the values of `required` come to. -/
def joinedRequirements : List Json → Option Json
  | [] => none
  | .arr items :: rest => some (.arr (items ++ additions items (rest.filterMap Json.items?)))
  | v :: _ => some v

/-- The properties that several fragments come to. As soon as one of them declares a mapping, what
is no mapping does not count. -/
structure JoinedProperties (values : List Json) (joined : Option Json) : Prop where
  first : values.filterMap Json.members? = [] → joined = values.head?
  united : values.filterMap Json.members? ≠ [] → ∃ named : Members, joined = some (.obj named) ∧
    named.names = ((values.filterMap Json.members?).flatMap names).eraseDups ∧
    ∀ name, named.get? name = joinedEntry (declared (values.filterMap Json.members?) name)

/-- What several fragments come to when the later ones are absorbed in the first. -/
structure Joined (fragments : List Members) (joined : Members) : Prop where
  names : joined.names = (fragments.flatMap Members.names).eraseDups
  properties : ∀ keyword ∈ propertyKeywords,
    JoinedProperties (declared fragments keyword) (joined.get? keyword)
  required : joined.get? "required" = joinedRequirements (declared fragments "required")
  /-- No requirement is lost. -/
  requires : ∀ items, joined.get? "required" = some (.arr items) →
    ∀ list, .arr list ∈ declared fragments "required" → ∀ name, .str name ∈ list →
      .str name ∈ items
  /-- No requirement is doubled, unless one list already doubles it. -/
  requiresOnce : ∀ items, joined.get? "required" = some (.arr items) →
    ∀ name, 1 < items.count (.str name) →
      ∃ list, .arr list ∈ declared fragments "required" ∧ 1 < list.count (.str name)
  others : ∀ keyword, keyword ∉ propertyKeywords → keyword ≠ "required" →
    joined.get? keyword = (declared fragments keyword).head?

/-! ### Properties -/

theorem combinedAll_combinedEntry (values : List Json) :
    combinedAll combinedEntry values = joinedEntry values := by
  have hFragment (rest : List Json) (first : Members) :
      rest.foldl combinedEntry (.obj first) =
        .obj ((rest.filterMap Json.members?).foldl absorb first) := by
    induction rest generalizing first with
    | nil => rfl
    | cons v rest ih => cases v <;> exact ih _
  have hOther (rest : List Json) (v : Json) (hOther : v.members? = none) :
      rest.foldl combinedEntry v = v := by
    induction rest with
    | nil => rfl
    | cons w rest ih =>
      have hStep : combinedEntry v w = v := by
        cases v with
        | obj fragment => cases hOther
        | _ => rfl
      rw [List.foldl_cons, hStep, ih]
  cases values with
  | nil => rfl
  | cons v rest =>
    cases v with
    | obj fragment => exact congrArg some (hFragment rest fragment)
    | _ => exact congrArg some (hOther rest _ rfl)

theorem foldl_combined_obj (hKeyword : keyword ∈ propertyKeywords) (named : Members) :
    rest.foldl (combined keyword) (.obj named) =
      .obj ((rest.filterMap Json.members?).foldl absorbNamed named) := by
  induction rest generalizing named with
  | nil => rfl
  | cons v rest ih =>
    rw [List.foldl_cons, combined_property hKeyword]
    cases v <;> exact ih _

/-- Under a property keyword only mappings are united, and the first of them replaces what is no
mapping. -/
theorem combinedAll_combined_property (hKeyword : keyword ∈ propertyKeywords)
    (hNames : ∀ v ∈ values, v.NoDuplicates) :
    combinedAll (combined keyword) values =
      match values.filterMap Json.members? with
      | [] => values.head?
      | named :: others => some (.obj (others.foldl absorbNamed named)) := by
  have hOther (rest : List Json) (hRest : ∀ v ∈ rest, v.NoDuplicates) (first : Json)
      (hFirst : first.members? = none) :
      rest.foldl (combined keyword) first =
        match rest.filterMap Json.members? with
        | [] => first
        | named :: others => .obj (others.foldl absorbNamed named) := by
    induction rest with
    | nil => rfl
    | cons v rest ih =>
      obtain ⟨hValue, hOthers⟩ := List.forall_mem_cons.mp hRest
      rw [List.foldl_cons, combined_property hKeyword, hFirst]
      cases v with
      | obj named =>
        change rest.foldl (combined keyword) (.obj (absorbNamed [] named)) = _
        rw [nil_absorbNamed hValue.names, foldl_combined_obj hKeyword]
        rfl
      | _ => exact ih hOthers
  cases values with
  | nil => rfl
  | cons first rest =>
    obtain ⟨-, hRest⟩ := List.forall_mem_cons.mp hNames
    cases first with
    | obj named => exact congrArg some (foldl_combined_obj hKeyword named)
    | _ =>
      rw [combinedAll, hOther rest hRest _ rfl, List.filterMap_cons_none rfl, List.head?_cons]
      cases rest.filterMap Json.members? <;> rfl

theorem absorbNamed_eq_mergeWith : absorbNamed = Members.mergeWith fun _ => combinedEntry := by
  funext target named
  exact absorbNamed_eq target named

theorem joinedProperties_combinedAll (hKeyword : keyword ∈ propertyKeywords)
    (hNames : ∀ v ∈ values, v.NoDuplicates) :
    JoinedProperties values (combinedAll (combined keyword) values) := by
  rw [combinedAll_combined_property hKeyword hNames]
  have hMappings : ∀ named ∈ values.filterMap Json.members?, (Members.names named).Nodup := by
    intro named hMem
    obtain ⟨v, hValue, hNamed⟩ := List.mem_filterMap.mp hMem
    obtain rfl := Json.members?_eq_some_iff.mp hNamed
    exact (hNames _ hValue).names
  constructor
  · intro hNone
    rw [hNone]
  · intro hSome
    cases hNamed : values.filterMap Json.members? with
    | nil => exact absurd hNamed hSome
    | cons named others =>
      rw [hNamed] at hMappings
      obtain ⟨hFirst, hOthers⟩ := List.forall_mem_cons.mp hMappings
      refine ⟨_, rfl, ?_, fun name => ?_⟩
      · rw [absorbNamed_eq_mergeWith]
        exact names_foldl_mergeWith hFirst hOthers
      · rw [absorbNamed_eq_mergeWith, get?_foldl_mergeWith hOthers, combinedAll_combinedEntry]

/-! ### Requirements -/

theorem agrees_str_iff {name : String} {v : Json} : (Json.str name).agrees v ↔ v = .str name := by
  cases v with
  | str other =>
    rw [Json.agrees, beq_iff_eq, Json.str.injEq]
    exact eq_comm
  | _ => simp [Json.agrees, Json.number?]

theorem foldl_union (present : List Json) (lists : List (List Json)) :
    lists.foldl union present = present ++ additions present lists := by
  induction lists generalizing present with
  | nil => exact (List.append_nil present).symm
  | cons items rest ih =>
    rw [List.foldl_cons, ih, additions, ← List.append_assoc]
    rfl

theorem combinedAll_combined_required (values : List Json) :
    combinedAll (combined "required") values = joinedRequirements values := by
  have hList (rest : List Json) (items : List Json) :
      rest.foldl (combined "required") (.arr items) =
        .arr ((rest.filterMap Json.items?).foldl union items) := by
    induction rest generalizing items with
    | nil => rfl
    | cons v rest ih => cases v <;> exact ih _
  have hOther (rest : List Json) (v : Json) (hItems : v.items? = none) :
      rest.foldl (combined "required") v = v := by
    induction rest with
    | nil => rfl
    | cons w rest ih =>
      have hStep : combined "required" v w = v := by
        cases v with
        | arr items => cases hItems
        | _ => cases w <;> rfl
      rw [List.foldl_cons, hStep, ih]
  cases values with
  | nil => rfl
  | cons v rest =>
    cases v with
    | arr items =>
      rw [combinedAll, hList, foldl_union]
      rfl
    | _ => exact congrArg some (hOther rest _ rfl)

section

variable {present items : List Json} {lists : List (List Json)} {name : String}

/-- The items of a list that are not there yet. -/
theorem count_fresh :
    (items.filter fun item => !present.any (item.agrees ·)).count (.str name) =
      if .str name ∈ present then 0 else items.count (.str name) := by
  have hThere : (present.any ((Json.str name).agrees ·)) = true ↔ .str name ∈ present := by
    simp [agrees_str_iff]
  split
  · rename_i hPresent
    apply List.count_eq_zero.mpr
    intro hMem
    have hNew := (List.mem_filter.mp hMem).2
    rw [hThere.mpr hPresent] at hNew
    cases hNew
  · rename_i hAbsent
    apply List.count_filter
    rw [Bool.eq_false_iff.mpr fun hAny => hAbsent (hThere.mp hAny)]
    rfl

theorem mem_additions (hList : items ∈ lists) (hName : .str name ∈ items) :
    .str name ∈ present ++ additions present lists := by
  induction lists generalizing present with
  | nil => cases hList
  | cons first rest ih =>
    rw [additions, ← List.append_assoc]
    rcases List.mem_cons.mp hList with rfl | hRest
    · apply List.mem_append_left
      by_cases hPresent : Json.str name ∈ present
      · exact List.mem_append_left _ hPresent
      · apply List.mem_append_right
        rw [← List.count_pos_iff, count_fresh, if_neg hPresent]
        exact List.count_pos_iff.mpr hName
    · exact ih hRest

theorem exists_of_count_additions
    (h : 1 < (present ++ additions present lists).count (.str name)) :
    1 < present.count (.str name) ∨ ∃ items ∈ lists, 1 < items.count (.str name) := by
  induction lists generalizing present with
  | nil =>
    rw [additions, List.append_nil] at h
    exact .inl h
  | cons items rest ih =>
    rw [additions, ← List.append_assoc] at h
    rcases ih h with hNow | ⟨list, hMem, hList⟩
    · rw [List.count_append, count_fresh] at hNow
      split at hNow
      · exact .inl hNow
      · rename_i hAbsent
        rw [List.count_eq_zero.mpr hAbsent, Nat.zero_add] at hNow
        exact .inr ⟨items, List.mem_cons_self, hNow⟩
    · exact .inr ⟨list, List.mem_cons_of_mem _ hMem, hList⟩

end

theorem exists_of_joinedRequirements {items : List Json}
    (h : joinedRequirements values = some (.arr items)) :
    ∃ first rest, values = .arr first :: rest ∧
      items = first ++ additions first (rest.filterMap Json.items?) := by
  cases values with
  | nil => cases h
  | cons v rest =>
    cases v with
    | arr first =>
      cases h
      exact ⟨first, rest, rfl, rfl⟩
    | _ => cases h

/-! ### Whole fragments -/

theorem absorb_eq_mergeWith : absorb = Members.mergeWith combined := by
  funext target source
  exact absorb_eq target source

/-- Absorbing several fragments in turn comes to their closed form, well formed or not. -/
theorem joined_foldl_absorb {target : Members} {branches : List Members}
    (h : ∀ fragment ∈ target :: branches, (Json.obj fragment).NoDuplicates) :
    Joined (target :: branches) (branches.foldl absorb target) := by
  obtain ⟨hTarget, hBranches⟩ := List.forall_mem_cons.mp h
  have hNames : ∀ branch ∈ branches, (Members.names branch).Nodup :=
    fun branch hMem => (hBranches branch hMem).names
  have hGet (keyword : String) : (branches.foldl absorb target).get? keyword =
      combinedAll (combined keyword) (declared (target :: branches) keyword) := by
    rw [absorb_eq_mergeWith]
    exact get?_foldl_mergeWith hNames keyword
  have hRequired : (branches.foldl absorb target).get? "required" =
      joinedRequirements (declared (target :: branches) "required") := by
    rw [hGet, combinedAll_combined_required]
  have hLists : ∀ items, (branches.foldl absorb target).get? "required" = some (.arr items) →
      ∃ first rest, declared (target :: branches) "required" = .arr first :: rest ∧
        items = first ++ additions first (rest.filterMap Json.items?) := by
    intro items hItems
    rw [hRequired] at hItems
    exact exists_of_joinedRequirements hItems
  refine ⟨?names, ?properties, hRequired, ?requires, ?requiresOnce, ?others⟩
  case names =>
    rw [absorb_eq_mergeWith]
    exact names_foldl_mergeWith hTarget.names hNames
  case properties =>
    intro keyword hKeyword
    rw [hGet]
    apply joinedProperties_combinedAll hKeyword
    intro v hMem
    obtain ⟨fragment, hFragment, hGet⟩ := List.mem_filterMap.mp hMem
    exact (h fragment hFragment).get? hGet
  case requires =>
    intro items hItems list hList name hName
    obtain ⟨first, rest, hDeclared, rfl⟩ := hLists items hItems
    rw [hDeclared] at hList
    rcases List.mem_cons.mp hList with hFirst | hRest
    · cases hFirst
      exact List.mem_append_left _ hName
    · exact mem_additions (List.mem_filterMap.mpr ⟨_, hRest, rfl⟩) hName
  case requiresOnce =>
    intro items hItems name hCount
    obtain ⟨first, rest, hDeclared, rfl⟩ := hLists items hItems
    rw [hDeclared]
    rcases exists_of_count_additions hCount with hFirst | ⟨list, hMem, hList⟩
    · exact ⟨first, List.mem_cons_self, hFirst⟩
    · obtain ⟨v, hValue, hItems⟩ := List.mem_filterMap.mp hMem
      obtain rfl := Json.items?_eq_some_iff.mp hItems
      exact ⟨list, List.mem_cons_of_mem _ hValue, hList⟩
  case others =>
    intro keyword hProperty hRequired
    rw [get?_foldl_absorb_of_other hProperty hRequired, declared, List.head?_filterMap]

def wellFormed : Members :=
  [("title", .str "t"), ("required", .arr [.str "a"]),
    ("properties", .obj [("a", .obj [("type", .str "string")]), ("b", .bool true)])]

/-- Properties that are a list and pattern properties that are nothing, a list of requirements that
doubles one and requirements that are no list. -/
def malformed : List Members :=
  [[("properties", .arr []), ("required", .arr [.str "b", .str "a", .str "b"])],
    [("patternProperties", .null), ("required", .int 3),
      ("properties", .obj [("b", .obj []), ("a", .obj [("title", .str "u")])])],
    [("patternProperties", .obj [("^x", .obj [])]), ("required", .arr [.str "c"]),
      ("title", .str "v")]]

theorem joined_foldl_absorb_malformed :
    (∀ fragment ∈ wellFormed :: malformed, (Json.obj fragment).NoDuplicates) ∧
      Joined (wellFormed :: malformed) (malformed.foldl absorb wellFormed) ∧
      malformed.foldl absorb wellFormed =
        [("title", .str "t"), ("required", .arr [.str "a", .str "b", .str "b", .str "c"]),
          ("properties", .obj [("a", .obj [("type", .str "string"), ("title", .str "u")]),
            ("b", .bool true)]),
          ("patternProperties", .obj [("^x", .obj [])])] := by
  have hNames : ∀ fragment ∈ wellFormed :: malformed, (Json.obj fragment).NoDuplicates := by
    simp [wellFormed, malformed, Json.NoDuplicates, Json.NoDuplicatesInMembers,
      Json.NoDuplicatesInItems]
  exact ⟨hNames, joined_foldl_absorb hNames, by decide +kernel⟩

end Fragment

end SchemaOutline
