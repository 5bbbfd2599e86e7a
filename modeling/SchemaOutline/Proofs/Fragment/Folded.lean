import SchemaOutline.Proofs.Fragment.Absorbing

/-!
# Folded documents

In a folded document the parts of fragments have been folded before the fragments themselves
(`contains_foldMembers`), and what is folded into a fragment brings no `allOf` that could be
folded once more: throughout the document every `allOf` that is left is one that cannot be folded
(`throughout_foldAllOf`).
-/

set_option autoImplicit false

namespace SchemaOutline

/-- A branch that is not folded into the fragment around it: it is no fragment or holds a `$ref`. -/
def Json.StaysApart (branch : Json) : Prop :=
  ∀ fragment : Members, branch = .obj fragment → fragment.has "$ref" = true

namespace Fragment

/-- The branches under `allOf`, if there are any, are not folded into the fragment. -/
def Unfoldable (fragment : Members) : Prop :=
  foldableBranches? (fragment.get "allOf") = none

/-- A fragment with all that can be folded in it. -/
def folded (fragment : Members) : Members := foldOwn (Json.foldMembers fragment)

theorem foldAllOf_obj (fragment : Members) :
    (Json.obj fragment).foldAllOf = .obj (folded fragment) := by
  rw [Json.foldAllOf, folded]

variable {fragment : Members} {branches : List Members} {items : List Json} {v : Json}

/-! ### Branches that can be folded -/

/-- The fragment that a branch is, if it can be folded. -/
def foldableBranch? (branch : Json) : Option Members :=
  branch.members?.bind fun fragment => if fragment.has "$ref" then none else some fragment

theorem foldableBranch?_eq_some_iff :
    foldableBranch? v = some fragment ↔ v = .obj fragment ∧ fragment.has "$ref" = false := by
  unfold foldableBranch?
  rw [Option.bind_eq_some_iff]
  constructor
  · rintro ⟨members, hMembers, h⟩
    split at h
    · cases h
    · rename_i hRef
      cases h
      exact ⟨Json.members?_eq_some_iff.mp hMembers, Bool.eq_false_iff.mpr hRef⟩
  · rintro ⟨rfl, hRef⟩
    exact ⟨fragment, rfl, by simp [hRef]⟩

theorem foldableBranch?_eq_none_iff : foldableBranch? v = none ↔ v.StaysApart := by
  rw [Option.eq_none_iff_forall_ne_some]
  simp only [ne_eq, foldableBranch?_eq_some_iff, Json.StaysApart, not_and, Bool.not_eq_false]

theorem mapM_foldableBranch?_eq_some_iff :
    items.mapM foldableBranch? = some branches ↔
      items = branches.map .obj ∧ ∀ branch ∈ branches, branch.has "$ref" = false := by
  induction items generalizing branches with
  | nil =>
    cases branches with
    | nil => simp
    | cons branch rest => simp
  | cons item rest ih =>
    rw [List.mapM_cons]
    constructor
    · intro h
      obtain ⟨branch, hBranch, h⟩ := Option.bind_eq_some_iff.mp h
      obtain ⟨others, hOthers, h⟩ := Option.bind_eq_some_iff.mp h
      cases h
      obtain ⟨rfl, hRef⟩ := foldableBranch?_eq_some_iff.mp hBranch
      obtain ⟨rfl, hRefs⟩ := ih.mp hOthers
      exact ⟨rfl, List.forall_mem_cons.mpr ⟨hRef, hRefs⟩⟩
    · rintro ⟨hItems, hRefs⟩
      cases branches with
      | nil => cases hItems
      | cons branch others =>
        obtain ⟨rfl, rfl⟩ := List.cons.inj hItems
        obtain ⟨hRef, hRefs⟩ := List.forall_mem_cons.mp hRefs
        rw [foldableBranch?_eq_some_iff.mpr ⟨rfl, hRef⟩, ih.mpr ⟨rfl, hRefs⟩]
        rfl

theorem mapM_foldableBranch?_eq_none_iff :
    items.mapM foldableBranch? = none ↔ ∃ branch ∈ items, branch.StaysApart := by
  simp only [mapM_eq_none_iff, foldableBranch?_eq_none_iff]

theorem foldableBranches?_eq_some_iff :
    foldableBranches? v = some branches ↔
      v = .arr (branches.map .obj) ∧ branches ≠ [] ∧
        ∀ branch ∈ branches, branch.has "$ref" = false := by
  unfold foldableBranches?
  split
  · cases branches <;> simp
  · rename_i items hItems
    refine mapM_foldableBranch?_eq_some_iff.trans ?_
    constructor
    · rintro ⟨rfl, hRefs⟩
      exact ⟨rfl, by rintro rfl; exact hItems rfl, hRefs⟩
    · rintro ⟨hItems, -, hRefs⟩
      exact ⟨Json.arr.inj hItems, hRefs⟩
  · rename_i hOther
    simp only [reduceCtorEq, false_iff, not_and]
    intro hItems
    exact absurd hItems (hOther _)

theorem noDuplicates_of_foldable (hNames : (Json.obj fragment).NoDuplicates)
    (hBranches : foldableBranches? (fragment.get "allOf") = some branches) :
    ∀ branch ∈ branches, (Json.obj branch).NoDuplicates := by
  obtain ⟨hAllOf, -⟩ := foldableBranches?_eq_some_iff.mp hBranches
  have hItems := hNames.get "allOf"
  rw [hAllOf] at hItems
  exact fun branch hMem => hItems.of_mem_items (List.mem_map_of_mem hMem)

theorem foldableBranches?_eq_none_iff :
    foldableBranches? (.arr items) = none ↔ items = [] ∨ ∃ branch ∈ items, branch.StaysApart := by
  cases items with
  | nil => simp [foldableBranches?]
  | cons item rest =>
    simp only [reduceCtorEq, false_or]
    exact mapM_foldableBranch?_eq_none_iff

end Fragment

/-! ### Steps of folding -/

namespace Fragment

/-- What holds of a fragment without its `allOf` and survives absorbing a branch holds of the folded
fragment, if it holds of a fragment that is left as it is. -/
theorem foldOwn_of_steps {motive : Members → Prop} {fragment : Members}
    (hKept : Unfoldable fragment → motive fragment) (hErased : motive (fragment.erase "allOf"))
    (hAbsorb : ∀ target branch, motive target → Contains fragment branch →
      branch.has "$ref" = false → motive (absorb target branch)) : motive (foldOwn fragment) := by
  unfold foldOwn
  split
  · rename_i branches hBranches
    obtain ⟨hAllOf, -, hRefs⟩ := foldableBranches?_eq_some_iff.mp hBranches
    apply List.foldlRecOn branches absorb hErased
    intro target hTarget branch hMem
    refine hAbsorb target branch hTarget (mem_parts_iff.mpr (.inl ⟨"allOf", by decide, ?_⟩))
      (hRefs branch hMem)
    rw [hAllOf]
    exact List.mem_map_of_mem hMem
  · rename_i hNone
    exact hKept hNone

theorem noDuplicates_foldOwn {fragment : Members} (h : (Json.obj fragment).NoDuplicates) :
    (Json.obj (foldOwn fragment)).NoDuplicates := by
  apply foldOwn_of_steps (motive := fun target => (Json.obj target).NoDuplicates)
  · exact fun _ => h
  · exact h.erase "allOf"
  · intro target branch hTarget hBranch _
    exact noDuplicates_absorb _ _ hTarget (noDuplicates_of_contains h hBranch)

end Fragment

/-! ### The parts are folded first -/

namespace Json

open Fragment

variable {members : Members} {keyword : String} {v : Json}

theorem foldNamed_eq_map (members : Members) :
    foldNamed members = members.map fun (name, v) => (name, v.foldAllOf) := by
  induction members with
  | nil => rw [foldNamed, List.map_nil]
  | cons member rest ih => rw [foldNamed, ih, List.map_cons]

theorem values_foldNamed (named : Members) :
    Members.values (foldNamed named) = named.values.map foldAllOf := by
  rw [foldNamed_eq_map, Members.values, Members.values, List.map_map, List.map_map]
  rfl

theorem foldItems_eq_map (items : List Json) : foldItems items = items.map foldAllOf := by
  induction items with
  | nil => rw [foldItems, List.map_nil]
  | cons v rest ih => rw [foldItems, ih, List.map_cons]

/-- What folding makes of the value under a keyword of a fragment. -/
def foldUnder (keyword : String) : Json → Json
  | .obj inner =>
    if namedSchemaKeywords.contains keyword then .obj (foldNamed inner)
    else if schemaKeywords.contains keyword then (obj inner).foldAllOf
    else .obj inner
  | .arr items =>
    if schemaListKeywords.contains keyword || schemaKeywords.contains keyword then
      .arr (foldItems items)
    else .arr items
  | v => v

theorem foldMembers_eq_map (members : Members) :
    foldMembers members = members.map fun (keyword, v) => (keyword, foldUnder keyword v) := by
  induction members with
  | nil => rw [foldMembers, List.map_nil]
  | cons member rest ih =>
    obtain ⟨keyword, v⟩ := member
    cases v <;> simp only [foldMembers, ih, List.map_cons, foldUnder, foldAllOf]

theorem names_foldMembers (members : Members) :
    Members.names (foldMembers members) = members.names := by
  rw [foldMembers_eq_map, Members.names, List.map_map]
  rfl

theorem names_foldNamed (members : Members) :
    Members.names (foldNamed members) = members.names := by
  rw [foldNamed_eq_map, Members.names, List.map_map]
  rfl

theorem get?_foldMembers (members : Members) (keyword : String) :
    Members.get? (foldMembers members) keyword =
      (members.get? keyword).map (foldUnder keyword) := by
  rw [foldMembers_eq_map, Members.get?_map]

theorem get?_foldNamed (named : Members) (name : String) :
    Members.get? (foldNamed named) name = (named.get? name).map foldAllOf := by
  rw [foldNamed_eq_map, Members.get?_map fun _ v => v.foldAllOf]

theorem exists_of_foldAllOf_eq_obj (h : v.foldAllOf = .obj members) :
    ∃ inner, v = .obj inner ∧ members = folded inner := by
  cases v with
  | obj inner =>
    rw [foldAllOf_obj] at h
    exact ⟨inner, rfl, (obj.inj h).symm⟩
  | _ => cases h

theorem items?_foldMembers (members : Members)
    (hKeyword : keyword ∈ ["allOf", "anyOf", "oneOf", "items"]) :
    (Members.get (foldMembers members) keyword).items? =
      (members.get keyword).items?.map (List.map foldAllOf) := by
  have hListed : ∀ keyword ∈ ["allOf", "anyOf", "oneOf", "items"],
      (schemaListKeywords.contains keyword || schemaKeywords.contains keyword) = true := by
    decide
  unfold Members.get
  rw [get?_foldMembers]
  cases members.get? keyword with
  | none => rfl
  | some v =>
    cases v with
    | arr items =>
      rw [Option.map_some, Option.getD_some, Option.getD_some, foldUnder,
        if_pos (hListed keyword hKeyword), foldItems_eq_map]
      rfl
    | obj inner =>
      simp only [Option.map_some, Option.getD_some, foldUnder, foldAllOf_obj]
      split
      · rfl
      · split <;> rfl
    | _ => rfl

theorem members?_foldMembers (members : Members)
    (hKeyword : keyword ∈ ["properties", "patternProperties"]) :
    (Members.get (foldMembers members) keyword).members? =
      (members.get keyword).members?.map foldNamed := by
  have hNamed : ∀ keyword ∈ ["properties", "patternProperties"],
      Fragment.namedSchemaKeywords.contains keyword = true := by
    decide
  unfold Members.get
  rw [get?_foldMembers]
  cases members.get? keyword with
  | none => rfl
  | some v =>
    cases v with
    | obj inner =>
      rw [Option.map_some, Option.getD_some, Option.getD_some, foldUnder,
        if_pos (hNamed keyword hKeyword)]
      rfl
    | arr items =>
      simp only [Option.map_some, Option.getD_some, foldUnder]
      split <;> rfl
    | _ => rfl

theorem get_items_foldMembers {part : Members}
    (h : Members.get (foldMembers members) "items" = .obj part) :
    ∃ inner, members.get "items" = .obj inner ∧ part = folded inner := by
  unfold Members.get at h ⊢
  rw [get?_foldMembers] at h
  cases hGet : members.get? "items" with
  | none =>
    rw [hGet] at h
    cases h
  | some v =>
    rw [hGet, Option.map_some, Option.getD_some] at h
    cases v with
    | obj inner =>
      have hFold : foldUnder "items" (.obj inner) = (obj inner).foldAllOf := by
        rw [foldUnder, if_neg (by decide), if_pos (by decide)]
      rw [hFold, foldAllOf_obj] at h
      exact ⟨inner, rfl, (obj.inj h).symm⟩
    | arr items =>
      rw [foldUnder] at h
      split at h <;> cases h
    | _ => cases h

theorem contains_foldMembers {part : Members} (h : Contains (foldMembers members) part) :
    ∃ inner, Contains members inner ∧ part = folded inner := by
  obtain ⟨keyword, hKeyword, hMem⟩ | hItems | ⟨keyword, hKeyword, hMem⟩ := mem_parts_iff.mp h
  · rw [items?_foldMembers members hKeyword] at hMem
    cases hItems : (members.get keyword).items? with
    | none =>
      rw [hItems] at hMem
      cases hMem
    | some items =>
      rw [hItems] at hMem
      obtain ⟨item, hItem, hFold⟩ := List.mem_map.mp hMem
      obtain ⟨inner, rfl, rfl⟩ := exists_of_foldAllOf_eq_obj hFold
      exact ⟨inner, mem_parts_iff.mpr (.inl ⟨keyword, hKeyword, by rwa [hItems]⟩), rfl⟩
  · obtain ⟨inner, hInner, rfl⟩ := get_items_foldMembers hItems.symm
    exact ⟨inner, mem_parts_iff.mpr (.inr (.inl hInner.symm)), rfl⟩
  · rw [members?_foldMembers members hKeyword] at hMem
    cases hNamed : (members.get keyword).members? with
    | none =>
      rw [hNamed] at hMem
      cases hMem
    | some named =>
      rw [hNamed, Option.map_some, Option.getD_some, values_foldNamed] at hMem
      obtain ⟨_, hEntry, hFold⟩ := List.mem_map.mp hMem
      obtain ⟨inner, rfl, rfl⟩ := exists_of_foldAllOf_eq_obj hFold
      refine ⟨inner, mem_parts_iff.mpr (.inr (.inr ⟨keyword, hKeyword, ?_⟩)), rfl⟩
      rwa [hNamed]

mutual

theorem noDuplicates_foldAllOf (v : Json) (h : v.NoDuplicates) : v.foldAllOf.NoDuplicates := by
  cases v with
  | obj fragment =>
    rw [foldAllOf]
    exact noDuplicates_foldOwn (noDuplicates_foldMembers fragment h)
  | _ => exact h

theorem noDuplicates_foldMembers (members : Members) (h : (obj members).NoDuplicates) :
    (obj (foldMembers members)).NoDuplicates := by
  cases members with
  | nil =>
    rw [foldMembers]
    exact h
  | cons member rest =>
    obtain ⟨keyword, v⟩ := member
    obtain ⟨hFresh, hValue, hNames⟩ := noDuplicates_cons_iff.mp h
    have hRest := noDuplicates_foldMembers rest hNames
    rw [← names_foldMembers] at hFresh
    cases v with
    | obj inner =>
      rw [foldMembers]
      refine noDuplicates_cons_iff.mpr ⟨hFresh, ?_, hRest⟩
      split
      · exact noDuplicates_foldNamed inner hValue
      · split
        · have hInner := noDuplicates_foldAllOf (.obj inner) hValue
          rwa [foldAllOf] at hInner
        · exact hValue
    | arr items =>
      rw [foldMembers]
      refine noDuplicates_cons_iff.mpr ⟨hFresh, ?_, hRest⟩
      split
      · exact noDuplicates_foldItems items hValue
      · exact hValue
    | _ =>
      rw [foldMembers]
      · exact noDuplicates_cons_iff.mpr ⟨hFresh, hValue, hRest⟩
      all_goals nofun

theorem noDuplicates_foldNamed (members : Members) (h : (obj members).NoDuplicates) :
    (obj (foldNamed members)).NoDuplicates := by
  cases members with
  | nil =>
    rw [foldNamed]
    exact h
  | cons member rest =>
    obtain ⟨name, v⟩ := member
    obtain ⟨hFresh, hValue, hNames⟩ := noDuplicates_cons_iff.mp h
    rw [← names_foldNamed] at hFresh
    rw [foldNamed]
    exact noDuplicates_cons_iff.mpr
      ⟨hFresh, noDuplicates_foldAllOf v hValue, noDuplicates_foldNamed rest hNames⟩

theorem noDuplicates_foldItems (items : List Json) (h : (arr items).NoDuplicates) :
    (arr (foldItems items)).NoDuplicates := by
  cases items with
  | nil =>
    rw [foldItems]
    exact h
  | cons v rest =>
    rw [NoDuplicates, NoDuplicatesInItems] at h
    rw [foldItems, NoDuplicates, NoDuplicatesInItems]
    exact ⟨noDuplicates_foldAllOf v h.1, noDuplicates_foldItems rest h.2⟩

end

end Json

/-! ### What is left of `allOf` -/

namespace Fragment

variable {fragment : Members}

theorem unfoldable_absorb {target source : Members} (hTarget : Unfoldable target)
    (hSource : Unfoldable source) : Unfoldable (absorb target source) := by
  have hGet : (absorb target source).get "allOf" = target.get "allOf" ∨
      (absorb target source).get "allOf" = source.get "allOf" :=
    get_absorb_of_other target source (by decide) (by decide)
  unfold Unfoldable
  obtain hSame | hSame := hGet <;> rw [hSame]
  · exact hTarget
  · exact hSource

theorem survivesAbsorbing_unfoldable : SurvivesAbsorbing Unfoldable :=
  fun _ _ _ => unfoldable_absorb

theorem unfoldable_erase (fragment : Members) : Unfoldable (fragment.erase "allOf") := by
  rw [Unfoldable, Members.get, Members.get?_erase, if_pos rfl]
  rfl

section

variable {p q : Members → Prop}

/-- What survives absorbing holds throughout a fragment after its `allOf` is folded, if it holds
throughout the parts and of the fragment both as it is and without its `allOf`. -/
theorem throughout_foldOwn (hp : SurvivesAbsorbing p) (hKept : Unfoldable fragment → p fragment)
    (hErased : p (fragment.erase "allOf")) (hNames : (Json.obj fragment).NoDuplicates)
    (h : ∀ part, Contains fragment part → (Json.obj part).Throughout p) :
    (Json.obj (foldOwn fragment)).Throughout p := by
  suffices hBoth : (Json.obj (foldOwn fragment)).NoDuplicates ∧
      (Json.obj (foldOwn fragment)).Throughout p from hBoth.2
  apply foldOwn_of_steps (motive := fun target =>
    (Json.obj target).NoDuplicates ∧ (Json.obj target).Throughout p)
  · exact fun hUnfoldable => ⟨hNames, .of_contains (hKept hUnfoldable) h⟩
  · exact ⟨hNames.erase "allOf", .of_contains hErased fun part hPart =>
      h part (contains_of_erase hPart)⟩
  · rintro target branch ⟨hTargetNames, hTarget⟩ hBranch -
    have hBranchNames := noDuplicates_of_contains hNames hBranch
    refine ⟨noDuplicates_absorb _ _ hTargetNames hBranchNames, ?_⟩
    exact throughout_absorb hp _ _ hTargetNames hBranchNames hTarget (h branch hBranch)

theorem throughout_folded (hp : SurvivesAbsorbing p)
    (hKept : ∀ fragment, q fragment → Unfoldable (Json.foldMembers fragment) →
      p (Json.foldMembers fragment))
    (hErased : ∀ fragment, q fragment → p (Members.erase (Json.foldMembers fragment) "allOf"))
    (fragment : Members) (hNames : (Json.obj fragment).NoDuplicates)
    (h : (Json.obj fragment).Throughout q) : (Json.obj (folded fragment)).Throughout p := by
  apply throughout_foldOwn hp (hKept fragment h.root) (hErased fragment h.root)
    (Json.noDuplicates_foldMembers fragment hNames)
  intro part hPart
  obtain ⟨inner, hInner, rfl⟩ := Json.contains_foldMembers hPart
  exact throughout_folded hp hKept hErased inner (noDuplicates_of_contains hNames hInner)
    (h.of_mem_parts hInner)
termination_by sizeOf fragment
decreasing_by exact sizeOf_lt_of_contains hInner

end

end Fragment

/-- Folding leaves no `allOf` that could be folded, at whatever depth. -/
theorem Json.throughout_foldAllOf {v : Json} (h : v.NoDuplicates) :
    v.foldAllOf.Throughout Fragment.Unfoldable := by
  cases v with
  | obj fragment =>
    rw [Fragment.foldAllOf_obj]
    refine Fragment.throughout_folded (q := fun _ => True) Fragment.survivesAbsorbing_unfoldable
      ?_ ?_ fragment h (.of_forall fun _ => trivial)
    · exact fun fragment _ hUnfoldable => hUnfoldable
    · exact fun fragment _ => Fragment.unfoldable_erase _
  | _ => exact .of_members?_eq_none rfl

theorem Json.foldAllOf?_eq_ok_iff {v w : Json} :
    v.foldAllOf? = .ok w ↔ v.foldDepth ≤ nestingLimit ∧ w = v.foldAllOf := by
  unfold foldAllOf?
  split
  · rename_i hDepth
    rw [Except.ok.injEq, eq_comm]
    exact (and_iff_right hDepth).symm
  · rename_i hDepth
    exact iff_of_false nofun fun h => hDepth h.1

theorem Json.foldAllOf?_eq_ok {v w : Json} (h : v.foldAllOf? = .ok w) : w = v.foldAllOf :=
  (foldAllOf?_eq_ok_iff.mp h).2

/-! ### Properties of folded fragments -/

namespace Fragment

variable {fragment target : Members} {branches : List Members} {name : String}

theorem isSome_members?_combinedEntry (present added : Json) :
    (combinedEntry present added).members?.isSome = present.members?.isSome := by
  unfold combinedEntry
  split <;> rfl

theorem isSome_members?_foldAllOf (v : Json) :
    v.foldAllOf.members?.isSome = v.members?.isSome := by
  cases v with
  | obj fragment =>
    rw [foldAllOf_obj]
    rfl
  | _ => rfl

/-- Whether a property is a fragment is decided by the first fragment that declares it. -/
theorem property?_foldl_absorb (hBranches : ∀ branch ∈ branches, (Json.obj branch).NoDuplicates) :
    (property? (branches.foldl absorb target) name).map (·.members?.isSome) =
      ((target :: branches).findSome? (property? · name)).map (·.members?.isSome) := by
  induction branches generalizing target with
  | nil => cases property? target name <;> simp_all
  | cons branch rest ih =>
    obtain ⟨hBranch, hRest⟩ := List.forall_mem_cons.mp hBranches
    rw [List.foldl_cons, ih hRest, List.findSome?_cons, property?_absorb hBranch,
      List.findSome?_cons, List.findSome?_cons]
    cases property? target name with
    | none => cases property? branch name <;> rfl
    | some present =>
      cases property? branch name with
      | none => rfl
      | some added => exact congrArg some (isSome_members?_combinedEntry present added)

theorem property?_erase (fragment : Members) (name : String) :
    property? (fragment.erase "allOf") name = property? fragment name := by
  unfold property? Members.get
  rw [Members.get?_erase, if_neg (by decide)]

theorem property?_foldMembers (fragment : Members) (name : String) :
    property? (Json.foldMembers fragment) name = (property? fragment name).map Json.foldAllOf := by
  unfold property?
  rw [Json.members?_foldMembers fragment (by decide)]
  cases (fragment.get "properties").members? with
  | none => rfl
  | some named => exact Json.get?_foldNamed named name

theorem has_folded (fragment : Members) :
    (folded fragment).has "$ref" = fragment.has "$ref" := by
  have hParts : Members.has (Json.foldMembers fragment) "$ref" = fragment.has "$ref" := by
    rw [Members.has, Json.get?_foldMembers, Option.isSome_map]
    rfl
  apply foldOwn_of_steps (motive := fun target => target.has "$ref" = fragment.has "$ref")
  · exact fun _ => hParts
  · rw [← hParts, Members.has, Members.get?_erase, if_neg (by decide)]
    rfl
  · intro target branch hTarget _ hRef
    rw [has_absorb, hTarget, hRef, Bool.or_false]

/-- Branches that can be folded can still be folded when they have been folded themselves. -/
theorem folded_eq_foldl
    (hBranches : foldableBranches? (fragment.get "allOf") = some branches) :
    folded fragment =
      (branches.map folded).foldl absorb (Members.erase (Json.foldMembers fragment) "allOf") := by
  obtain ⟨hAllOf, hSome, hRefs⟩ := foldableBranches?_eq_some_iff.mp hBranches
  have hItems := Json.items?_foldMembers fragment (by decide : "allOf" ∈ _)
  rw [hAllOf, Json.items?, Option.map_some, List.map_map] at hItems
  have hFolded : foldableBranches? (Members.get (Json.foldMembers fragment) "allOf") =
      some (branches.map folded) := by
    refine foldableBranches?_eq_some_iff.mpr ⟨?_, by simpa using hSome, ?_⟩
    · rw [Json.items?_eq_some_iff.mp hItems, List.map_map]
      rfl
    · intro branch hMem
      obtain ⟨inner, hInner, rfl⟩ := List.mem_map.mp hMem
      rw [has_folded, hRefs inner hInner]
  rw [folded, foldOwn, hFolded]

theorem noDuplicates_folded (hNames : (Json.obj fragment).NoDuplicates) :
    (Json.obj (folded fragment)).NoDuplicates := by
  rw [← foldAllOf_obj]
  exact Json.noDuplicates_foldAllOf _ hNames

theorem property?_folded (hNames : (Json.obj fragment).NoDuplicates)
    (hBranches : foldableBranches? (fragment.get "allOf") = some branches) (name : String) :
    (property? (folded fragment) name).map (·.members?.isSome) =
      ((fragment :: branches.map folded).findSome? (property? · name)).map
        (·.members?.isSome) := by
  have hFolded : ∀ branch ∈ branches.map folded, (Json.obj branch).NoDuplicates := by
    intro branch hMem
    obtain ⟨inner, hInner, rfl⟩ := List.mem_map.mp hMem
    exact noDuplicates_folded (noDuplicates_of_foldable hNames hBranches inner hInner)
  rw [folded_eq_foldl hBranches, property?_foldl_absorb hFolded, List.findSome?_cons,
    List.findSome?_cons, property?_erase, property?_foldMembers]
  cases property? fragment name with
  | none => rfl
  | some v => exact congrArg some (isSome_members?_foldAllOf v)

theorem isSome_property?_foldOwn (hNames : (Json.obj fragment).NoDuplicates)
    (h : (property? fragment name).isSome) : (property? (foldOwn fragment) name).isSome := by
  apply foldOwn_of_steps (motive := fun target => (property? target name).isSome)
  · exact fun _ => h
  · rwa [property?_erase]
  · intro target branch hTarget hBranch _
    rw [property?_absorb (noDuplicates_of_contains hNames hBranch), Option.isSome_merge, hTarget,
      Bool.true_or]

/-- No property that a fragment declares gets lost when the fragment is folded. -/
theorem isSome_property?_folded (hNames : (Json.obj fragment).NoDuplicates)
    (h : (property? fragment name).isSome) : (property? (folded fragment) name).isSome := by
  apply isSome_property?_foldOwn (Json.noDuplicates_foldMembers fragment hNames)
  rwa [property?_foldMembers, Option.isSome_map]

end Fragment

end SchemaOutline
