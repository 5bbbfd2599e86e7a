import SchemaOutline.Proofs.Fragment.Associating
import SchemaOutline.Proofs.Fragment.Refolding

/-!
# Nested and flat lists of branches

A branch that is nothing but an `allOf` of its own can be replaced by its branches, because
absorbing is associative (`folded_nestedAllOf_of_foldable`). That goes for lists that are folded. In
a list with a branch that stays apart no other branch is folded into the fragment either, and the
nested branches, which are folded into each other, remain one branch of the list
(`foldAllOf_nestedAllOf`).
-/

set_option autoImplicit false

namespace SchemaOutline

namespace Fragment

variable {fragment before after : Members} {branches : List Members} {items : List Json}

/-! ### Folding keeps fragments well-shaped -/

theorem shaped_erase (h : Shaped fragment) : Shaped (fragment.erase "allOf") := by
  constructor
  · intro keyword hKeyword named hGet
    rw [Members.get?_erase] at hGet
    split at hGet
    · cases hGet
    · exact h.property keyword hKeyword named hGet
  · intro v hGet
    rw [Members.get?_erase, if_neg (by decide)] at hGet
    exact h.required v hGet

theorem wellShaped_erase (h : (Json.obj fragment).WellShaped) :
    (Json.obj (fragment.erase "allOf")).WellShaped :=
  ⟨h.names.erase "allOf", .of_contains (shaped_erase h.shaped.root) fun _ hPart =>
    h.shaped.of_mem_parts (contains_of_erase hPart)⟩

theorem wellShaped_of_contains {part : Members} (h : (Json.obj fragment).WellShaped)
    (hPart : Contains fragment part) : (Json.obj part).WellShaped :=
  ⟨noDuplicates_of_contains h.names hPart, h.shaped.of_mem_parts hPart⟩

theorem shaped_foldMembers (h : Shaped fragment) : Shaped (Json.foldMembers fragment) := by
  constructor
  · intro keyword hKeyword named hGet
    have hMembers : (Members.get (Json.foldMembers fragment) keyword).members? = some named := by
      rw [Members.get, hGet]
      rfl
    rw [Json.members?_foldMembers fragment hKeyword] at hMembers
    obtain ⟨inner, hInner, rfl⟩ := Option.map_eq_some_iff.mp hMembers
    have hOld := h.property keyword hKeyword inner
      (Members.get?_of_get_eq_obj (Json.members?_eq_some_iff.mp hInner))
    intro v hMem
    rw [Json.values_foldNamed] at hMem
    obtain ⟨w, hEntry, rfl⟩ := List.mem_map.mp hMem
    rw [isSome_members?_foldAllOf]
    exact hOld w hEntry
  · intro v hGet
    rw [Json.get?_foldMembers] at hGet
    obtain ⟨w, hOld, rfl⟩ := Option.map_eq_some_iff.mp hGet
    obtain ⟨names, rfl⟩ := h.required w hOld
    exact ⟨names, by rw [Json.foldUnder, if_neg (by decide)]⟩

theorem wellShaped_folded (h : (Json.obj fragment).WellShaped) :
    (Json.obj (folded fragment)).WellShaped := by
  refine ⟨noDuplicates_folded h.names, ?_⟩
  apply throughout_folded survivesAbsorbing_shaped _ _ fragment h.names h.shaped
  · exact fun _ hShaped _ => shaped_foldMembers hShaped
  · exact fun _ hShaped => shaped_erase (shaped_foldMembers hShaped)

theorem forall_wellShaped_folded (h : ∀ branch ∈ branches, (Json.obj branch).WellShaped) :
    ∀ branch ∈ branches.map folded, (Json.obj branch).WellShaped := by
  intro branch hMem
  obtain ⟨inner, hInner, rfl⟩ := List.mem_map.mp hMem
  exact wellShaped_folded (h inner hInner)

/-! ### Folding with the siblings folded first -/

theorem folded_erase (fragment : Members) :
    folded (fragment.erase "allOf") = Members.erase (Json.foldMembers fragment) "allOf" := by
  have hParts : Json.foldMembers (fragment.erase "allOf") =
      Members.erase (Json.foldMembers fragment) "allOf" := by
    rw [Json.foldMembers_eq_map, Json.foldMembers_eq_map, Members.erase, Members.erase,
      List.filter_map]
    rfl
  have hNone : foldableBranches?
      (Members.get (Members.erase (Json.foldMembers fragment) "allOf") "allOf") = none :=
    unfoldable_erase _
  rw [folded, hParts, foldOwn, hNone]

theorem folded_of_foldable (hAllOf : fragment.get "allOf" = .arr (branches.map .obj))
    (hSome : branches ≠ []) (hRefs : ∀ branch ∈ branches, branch.has "$ref" = false) :
    folded fragment = (branches.map folded).foldl absorb (folded (fragment.erase "allOf")) := by
  rw [folded_eq_foldl (foldableBranches?_eq_some_iff.mpr ⟨hAllOf, hSome, hRefs⟩), folded_erase]

theorem staysApart_foldAllOf {v : Json} (h : v.StaysApart) : v.foldAllOf.StaysApart := by
  intro fragment hFold
  obtain ⟨inner, rfl, rfl⟩ := Json.exists_of_foldAllOf_eq_obj hFold
  rw [has_folded]
  exact h inner rfl

/-! ### One list of branches -/

/-- A fragment with a list of branches, between the members that stand before and after it. -/
def withAllOf (before after : Members) (branches : List Json) : Members :=
  before ++ ("allOf", .arr branches) :: after

theorem names_withAllOf (before after : Members) (branches : List Json) :
    (withAllOf before after branches).names = before.names ++ "allOf" :: after.names :=
  List.map_append

theorem get_withAllOf (hNames : (before.names ++ "allOf" :: after.names).Nodup) :
    (withAllOf before after items).get "allOf" = .arr items := by
  rw [← names_withAllOf before after items] at hNames
  rw [Members.get, Members.get?_of_mem hNames (List.mem_append_right _ List.mem_cons_self)]
  rfl

theorem erase_withAllOf (before after : Members) (branches : List Json) :
    (withAllOf before after branches).erase "allOf" = (before ++ after).erase "allOf" := by
  rw [withAllOf, Members.erase, List.filter_append, List.filter_cons_of_neg (by simp),
    ← List.filter_append]
  rfl

theorem foldMembers_withAllOf (before after : Members) (branches : List Json) :
    Json.foldMembers (withAllOf before after branches) =
      withAllOf (Json.foldMembers before) (Json.foldMembers after)
        (branches.map Json.foldAllOf) := by
  have hList : Json.foldUnder "allOf" (.arr branches) = .arr (branches.map Json.foldAllOf) := by
    rw [Json.foldUnder, if_pos (by decide), Json.foldItems_eq_map]
  simp only [withAllOf, Json.foldMembers_eq_map, List.map_append, List.map_cons, hList]

theorem withAllOf_inj {first second : List Json} :
    withAllOf before after first = withAllOf before after second ↔ first = second := by
  simp [withAllOf]

theorem contains_withAllOf {part : Members}
    (hNames : (before.names ++ "allOf" :: after.names).Nodup) (hMem : .obj part ∈ items) :
    Contains (withAllOf before after items) part := by
  refine mem_parts_iff.mpr (.inl ⟨"allOf", by decide, ?_⟩)
  rwa [get_withAllOf hNames]

theorem wellShaped_branches
    (h : (Json.obj (withAllOf before after (branches.map .obj))).WellShaped) :
    ∀ branch ∈ branches, (Json.obj branch).WellShaped := by
  have hNames := h.names.names
  rw [names_withAllOf] at hNames
  exact fun branch hMem =>
    wellShaped_of_contains h (contains_withAllOf hNames (List.mem_map_of_mem hMem))

theorem folded_withAllOf (hNames : (before.names ++ "allOf" :: after.names).Nodup)
    (hSome : branches ≠ []) (hRefs : ∀ branch ∈ branches, branch.has "$ref" = false) :
    folded (withAllOf before after (branches.map .obj)) =
      (branches.map folded).foldl absorb (folded ((before ++ after).erase "allOf")) := by
  rw [folded_of_foldable (get_withAllOf hNames) hSome hRefs, erase_withAllOf]

/-- Where one branch stays apart all of them stay, each of them folded. -/
theorem folded_withAllOf_of_apart (hNames : (before.names ++ "allOf" :: after.names).Nodup)
    (hApart : ∃ v ∈ items, v.StaysApart) :
    folded (withAllOf before after items) =
      withAllOf (Json.foldMembers before) (Json.foldMembers after) (items.map Json.foldAllOf) := by
  obtain ⟨v, hMem, hStays⟩ := hApart
  have hNone : foldableBranches? (.arr (items.map Json.foldAllOf)) = none :=
    foldableBranches?_eq_none_iff.mpr
      (.inr ⟨v.foldAllOf, List.mem_map_of_mem hMem, staysApart_foldAllOf hStays⟩)
  rw [← Json.names_foldMembers before, ← Json.names_foldMembers after] at hNames
  rw [folded, foldMembers_withAllOf, foldOwn, get_withAllOf hNames, hNone]

/-- What nothing but a list of branches comes to. -/
theorem folded_branches (hSome : branches ≠ [])
    (hRefs : ∀ branch ∈ branches, branch.has "$ref" = false) :
    folded (withAllOf [] [] (branches.map .obj)) = (branches.map folded).foldl absorb [] := by
  have hErased : folded ((withAllOf [] [] (branches.map .obj)).erase "allOf") = [] := by
    rw [folded_erase, foldMembers_withAllOf, Json.foldMembers, erase_withAllOf]
    rfl
  rw [folded_of_foldable (get_withAllOf (by decide)) hSome hRefs, hErased]

end Fragment

/-! ### Depth -/

namespace Json

theorem foldDepthOfItems_append (first second : List Json) :
    foldDepthOfItems (first ++ second) =
      max (foldDepthOfItems first) (foldDepthOfItems second) := by
  induction first with
  | nil => rw [List.nil_append, foldDepthOfItems, Nat.zero_max]
  | cons v rest ih => rw [List.cons_append, foldDepthOfItems, foldDepthOfItems, ih, Nat.max_assoc]

theorem foldDepthOfMembers_append (first second : Members) :
    foldDepthOfMembers (first ++ second) =
      max (foldDepthOfMembers first) (foldDepthOfMembers second) := by
  induction first with
  | nil => rw [List.nil_append, foldDepthOfMembers, Nat.zero_max]
  | cons member rest ih =>
    obtain ⟨keyword, v⟩ := member
    cases v <;> simp only [List.cons_append, foldDepthOfMembers, ih, Nat.max_assoc]

theorem foldDepth_withAllOf (before after : Members) (branches : List Json) :
    (obj (Fragment.withAllOf before after branches)).foldDepth =
      max (foldDepthOfMembers before) (max (foldDepthOfItems branches) (foldDepthOfMembers after))
        + 1 := by
  rw [foldDepth, Fragment.withAllOf, foldDepthOfMembers_append, foldDepthOfMembers,
    if_pos (by decide)]

end Json

/-! ### A list inside a list -/

namespace Fragment

/-- A fragment with branches one of which has nothing but branches of its own. -/
def nestedAllOf (before after : Members) (xs : List Json) (ys : List Members) (zs : List Json) :
    Members :=
  withAllOf before after (xs ++ .obj (withAllOf [] [] (ys.map .obj)) :: zs)

/-- The same fragment with the inner branches in the list of the outer ones. -/
def flatAllOf (before after : Members) (xs : List Json) (ys : List Members) (zs : List Json) :
    Members :=
  withAllOf before after (xs ++ ys.map .obj ++ zs)

variable {fragment before after : Members} {xs zs items : List Json}
  {ys heads tails : List Members}

theorem foldDepth_flatAllOf_le :
    (Json.obj (flatAllOf before after xs ys zs)).foldDepth ≤
      (Json.obj (nestedAllOf before after xs ys zs)).foldDepth := by
  have hInner : Json.foldDepthOfItems (ys.map .obj) ≤
      (Json.obj (withAllOf [] [] (ys.map .obj))).foldDepth := by
    rw [Json.foldDepth_withAllOf]
    omega
  have hItems : Json.foldDepthOfItems (xs ++ ys.map .obj ++ zs) ≤
      Json.foldDepthOfItems (xs ++ .obj (withAllOf [] [] (ys.map .obj)) :: zs) := by
    rw [Json.foldDepthOfItems_append, Json.foldDepthOfItems_append, Json.foldDepthOfItems_append,
      Json.foldDepthOfItems]
    omega
  rw [flatAllOf, nestedAllOf, Json.foldDepth_withAllOf, Json.foldDepth_withAllOf]
  omega

theorem nestedAllOf_map (before after : Members) (heads ys tails : List Members) :
    nestedAllOf before after (heads.map .obj) ys (tails.map .obj) =
      withAllOf before after ((heads ++ withAllOf [] [] (ys.map .obj) :: tails).map .obj) := by
  rw [nestedAllOf, List.map_append, List.map_cons]

theorem flatAllOf_map (before after : Members) (heads ys tails : List Members) :
    flatAllOf before after (heads.map .obj) ys (tails.map .obj) =
      withAllOf before after ((heads ++ ys ++ tails).map .obj) := by
  rw [flatAllOf, List.map_append, List.map_append]

/-- The inner branches are absorbed in the place of the branch that they come to. -/
theorem folded_nestedAllOf_of_foldable
    (h : (Json.obj (nestedAllOf before after (heads.map .obj) ys (tails.map .obj))).WellShaped)
    (hSome : ys ≠ []) (hRefs : ∀ branch ∈ ys, branch.has "$ref" = false)
    (hHeads : ∀ branch ∈ heads, branch.has "$ref" = false)
    (hTails : ∀ branch ∈ tails, branch.has "$ref" = false) :
    folded (nestedAllOf before after (heads.map .obj) ys (tails.map .obj)) =
      folded (flatAllOf before after (heads.map .obj) ys (tails.map .obj)) := by
  rw [nestedAllOf_map] at h ⊢
  rw [flatAllOf_map]
  have hNames := h.names.names
  rw [names_withAllOf] at hNames
  have hStart := wellShaped_folded (wellShaped_erase h)
  rw [erase_withAllOf] at hStart
  have hShaped := wellShaped_branches h
  obtain ⟨hHeadsShaped, hRest⟩ := List.forall_mem_append.mp hShaped
  have hInnerShaped := wellShaped_branches (List.forall_mem_cons.mp hRest).1
  have hNestedRefs : ∀ branch ∈ heads ++ withAllOf [] [] (ys.map .obj) :: tails,
      branch.has "$ref" = false :=
    List.forall_mem_append.mpr ⟨hHeads, List.forall_mem_cons.mpr ⟨rfl, hTails⟩⟩
  have hFlatRefs : ∀ branch ∈ heads ++ ys ++ tails, branch.has "$ref" = false :=
    List.forall_mem_append.mpr ⟨List.forall_mem_append.mpr ⟨hHeads, hRefs⟩, hTails⟩
  rw [folded_withAllOf hNames (by simp) hNestedRefs,
    folded_withAllOf hNames (by simp [hSome]) hFlatRefs, List.map_append, List.map_cons,
    folded_branches hSome hRefs, List.map_append, List.map_append]
  exact foldl_absorb_nested hStart (forall_wellShaped_folded hHeadsShaped)
    (forall_wellShaped_folded hInnerShaped)

/-- The branches stay in their list if one of the outer ones stays apart, and so a list of inner
branches makes no difference only if it has a single branch. -/
theorem folded_nestedAllOf_of_apart (hNames : (before.names ++ "allOf" :: after.names).Nodup)
    (hSome : ys ≠ []) (hRefs : ∀ branch ∈ ys, branch.has "$ref" = false)
    (hShaped : ∀ branch ∈ ys, (Json.obj branch).WellShaped)
    (hApart : ∃ v ∈ xs ++ zs, v.StaysApart) :
    folded (nestedAllOf before after xs ys zs) = folded (flatAllOf before after xs ys zs) ↔
      ys.length = 1 := by
  obtain ⟨v, hMem, hStays⟩ := hApart
  have hOuter : v ∈ xs ∨ v ∈ zs := List.mem_append.mp hMem
  have hNested : v ∈ xs ++ .obj (withAllOf [] [] (ys.map .obj)) :: zs :=
    List.mem_append.mpr (hOuter.imp id (List.mem_cons_of_mem _))
  have hFlat : v ∈ xs ++ ys.map .obj ++ zs :=
    List.mem_append.mpr (hOuter.imp (List.mem_append_left _) id)
  have hLists : folded (nestedAllOf before after xs ys zs) =
      folded (flatAllOf before after xs ys zs) ↔
        [Json.obj ((ys.map folded).foldl absorb [])] = (ys.map .obj).map Json.foldAllOf := by
    rw [nestedAllOf, flatAllOf, folded_withAllOf_of_apart hNames ⟨v, hNested, hStays⟩,
      folded_withAllOf_of_apart hNames ⟨v, hFlat, hStays⟩, withAllOf_inj, List.map_append,
      List.map_cons, foldAllOf_obj, folded_branches hSome hRefs, List.map_append, List.map_append]
    -- What stands before and behind the inner branches is the same in both lists.
    rw [List.append_assoc, List.append_cancel_left_eq, ← List.singleton_append,
      List.append_cancel_right_eq]
  rw [hLists]
  constructor
  · intro hSame
    have hLength := congrArg List.length hSame
    simpa using hLength.symm
  · intro hLength
    obtain ⟨branch, rfl⟩ := List.length_eq_one_iff.mp hLength
    have hBranch : absorb [] (folded branch) = folded branch :=
      nil_absorb (wellShaped_folded (hShaped branch (List.mem_singleton_self _))).names.names
    rw [List.map_singleton, List.foldl_cons, List.foldl_nil, hBranch, List.map_singleton,
      List.map_singleton, foldAllOf_obj]

theorem not_staysApart {branch : Members} (h : branch.has "$ref" = false) :
    ¬(Json.obj branch).StaysApart := by
  intro hApart
  rw [hApart branch rfl] at h
  cases h

theorem exists_branches_of_not_apart (h : ∀ v ∈ items, ¬v.StaysApart) :
    ∃ branches : List Members, items = branches.map .obj ∧
      ∀ branch ∈ branches, branch.has "$ref" = false := by
  cases hBranches : items.mapM foldableBranch? with
  | none =>
    obtain ⟨v, hMem, hApart⟩ := mapM_foldableBranch?_eq_none_iff.mp hBranches
    exact absurd hApart (h v hMem)
  | some branches => exact ⟨branches, mapM_foldableBranch?_eq_some_iff.mp hBranches⟩

/-- Whether branches are nested or not makes no difference if all the outer ones are folded with
them, or if there is only one inner one, and it does make a difference otherwise. Nor does it matter
in which order well-shaped fragments are absorbed in each other. -/
theorem foldAllOf_nestedAllOf (h : (Json.obj (nestedAllOf before after xs ys zs)).WellShaped)
    (hSome : ys ≠ []) (hRefs : ∀ branch ∈ ys, branch.has "$ref" = false) :
    ((Json.obj (nestedAllOf before after xs ys zs)).foldAllOf =
        (Json.obj (flatAllOf before after xs ys zs)).foldAllOf ↔
      (∀ v ∈ xs ++ zs, ¬v.StaysApart) ∨ ys.length = 1) ∧
    ((∀ v ∈ xs ++ zs, ¬v.StaysApart) ∨ ys.length = 1 →
      ∀ w, (Json.obj (nestedAllOf before after xs ys zs)).foldAllOf? = .ok w →
        (Json.obj (flatAllOf before after xs ys zs)).foldAllOf? = .ok w) ∧
    ∀ first second third : Members, (Json.obj first).WellShaped → (Json.obj second).WellShaped →
      (Json.obj third).WellShaped →
        absorb (absorb first second) third = absorb first (absorb second third) ∧
          absorb [] first = first ∧ absorb first [] = first := by
  have hSame : (Json.obj (nestedAllOf before after xs ys zs)).foldAllOf =
      (Json.obj (flatAllOf before after xs ys zs)).foldAllOf ↔
        (∀ v ∈ xs ++ zs, ¬v.StaysApart) ∨ ys.length = 1 := by
    rw [foldAllOf_obj, foldAllOf_obj, Json.obj.injEq]
    by_cases hApart : ∃ v ∈ xs ++ zs, v.StaysApart
    · have hNames := h.names.names
      rw [nestedAllOf, names_withAllOf] at hNames
      have hInner := wellShaped_branches (wellShaped_of_contains h
        (contains_withAllOf hNames (List.mem_append_right _ List.mem_cons_self)))
      rw [folded_nestedAllOf_of_apart hNames hSome hRefs hInner hApart]
      obtain ⟨v, hMem, hStays⟩ := hApart
      exact (or_iff_right fun hAll => hAll v hMem hStays).symm
    · have hAll : ∀ v ∈ xs ++ zs, ¬v.StaysApart := fun v hMem hStays => hApart ⟨v, hMem, hStays⟩
      obtain ⟨hXs, hZs⟩ := List.forall_mem_append.mp hAll
      obtain ⟨heads, rfl, hHeads⟩ := exists_branches_of_not_apart hXs
      obtain ⟨tails, rfl, hTails⟩ := exists_branches_of_not_apart hZs
      exact iff_of_true (folded_nestedAllOf_of_foldable h hSome hRefs hHeads hTails) (.inl hAll)
  refine ⟨hSame, ?_, ?_⟩
  · intro hCase w hFold
    obtain ⟨hDepth, rfl⟩ := Json.foldAllOf?_eq_ok_iff.mp hFold
    exact Json.foldAllOf?_eq_ok_iff.mpr
      ⟨Nat.le_trans foldDepth_flatAllOf_le hDepth, hSame.mpr hCase⟩
  · intro first second third hFirst hSecond hThird
    exact ⟨absorb_assoc first second third hFirst hSecond hThird, nil_absorb hFirst.names.names,
      absorb_nil first⟩

theorem shaped_of_get?_eq_none
    (h : ∀ keyword ∈ "required" :: propertyKeywords, fragment.get? keyword = none) :
    Shaped fragment := by
  obtain ⟨hRequired, hProperty⟩ := List.forall_mem_cons.mp h
  constructor
  · intro keyword hKeyword named hGet
    rw [hProperty keyword hKeyword] at hGet
    cases hGet
  · intro v hGet
    rw [hRequired] at hGet
    cases hGet

/-- A fragment that requires some names. -/
def requiring (names : List String) : Members := [("required", .arr (names.map .str))]

theorem throughout_requiring (names : List String) :
    (Json.obj (requiring names)).Throughout Shaped := by
  refine .of_parts ⟨?_, ?_⟩ (List.forall_mem_singleton.mpr (.of_members?_eq_none rfl))
  · intro keyword _ named hGet
    cases List.mem_singleton.mp (Members.mem_of_get? hGet)
  · intro v hGet
    obtain ⟨⟩ := List.mem_singleton.mp (Members.mem_of_get? hGet)
    exact ⟨names, rfl⟩

/-- A fragment that declares one property and its type. -/
def declaring (name type : String) : Members :=
  [("properties", .obj [(name, .obj [("type", .str type)])])]

theorem throughout_declaring (name type : String) :
    (Json.obj (declaring name type)).Throughout Shaped := by
  have hNull : Json.null.Throughout Shaped := .of_members?_eq_none rfl
  have hType : (Json.obj [("type", .str type)]).Throughout Shaped := by
    refine .of_parts (shaped_of_get?_eq_none ?_) (List.forall_mem_singleton.mpr hNull)
    simp [propertyKeywords, Members.get?_cons, Members.get?_nil]
  refine .of_parts ⟨?_, ?_⟩
    (List.forall_mem_cons.mpr ⟨hNull, List.forall_mem_singleton.mpr hType⟩)
  · intro keyword _ named hGet
    obtain ⟨⟩ := List.mem_singleton.mp (Members.mem_of_get? hGet)
    exact List.forall_mem_singleton.mpr rfl
  · intro v hGet
    have hNone : (declaring name type).get? "required" = none := rfl
    rw [hNone] at hGet
    cases hGet

/-- A branch that has nothing but two branches, among others with which it is folded. -/
def nestedRequirements : Members :=
  nestedAllOf [("title", .str "t")] [("minProperties", .int 1)]
    [.obj (requiring ["a"]), .obj (declaring "a" "string")]
    [requiring ["b", "a"], declaring "b" "object"] [.obj (requiring ["c", "b"])]

theorem wellShaped_nestedRequirements : (Json.obj nestedRequirements).WellShaped := by
  have hNull : Json.null.Throughout Shaped := .of_members?_eq_none rfl
  have hInner : (Json.obj (withAllOf [] [] ([requiring ["b", "a"],
      declaring "b" "object"].map .obj))).Throughout Shaped := by
    refine .of_parts (shaped_of_get?_eq_none (by decide +kernel)) ?_
    exact List.forall_mem_cons.mpr ⟨throughout_requiring _,
      List.forall_mem_cons.mpr ⟨throughout_declaring _ _, List.forall_mem_singleton.mpr hNull⟩⟩
  constructor
  · simp [nestedRequirements, nestedAllOf, withAllOf, requiring, declaring, Json.NoDuplicates,
      Json.NoDuplicatesInMembers, Json.NoDuplicatesInItems]
  · refine .of_parts (shaped_of_get?_eq_none (by decide +kernel)) ?_
    exact List.forall_mem_cons.mpr ⟨throughout_requiring _,
      List.forall_mem_cons.mpr ⟨throughout_declaring _ _,
        List.forall_mem_cons.mpr ⟨hInner, List.forall_mem_cons.mpr ⟨throughout_requiring _,
          List.forall_mem_singleton.mpr hNull⟩⟩⟩⟩

theorem foldAllOf_nestedRequirements :
    (Json.obj nestedRequirements).WellShaped ∧
      (Json.obj nestedRequirements).foldAllOf =
        .obj [("title", .str "t"), ("minProperties", .int 1),
          ("required", .arr [.str "a", .str "b", .str "c"]),
          ("properties", .obj [("a", .obj [("type", .str "string")]),
            ("b", .obj [("type", .str "object")])])] ∧
      (Json.obj (flatAllOf [("title", .str "t")] [("minProperties", .int 1)]
        [.obj (requiring ["a"]), .obj (declaring "a" "string")]
        [requiring ["b", "a"], declaring "b" "object"] [.obj (requiring ["c", "b"])])).foldAllOf? =
          .ok (Json.obj nestedRequirements).foldAllOf := by
  have hShaped := wellShaped_nestedRequirements
  have hFolds : ∀ v ∈ [Json.obj (requiring ["a"]), .obj (declaring "a" "string")] ++
      [.obj (requiring ["c", "b"])], ¬v.StaysApart :=
    List.forall_mem_cons.mpr ⟨not_staysApart rfl, List.forall_mem_cons.mpr
      ⟨not_staysApart rfl, List.forall_mem_singleton.mpr (not_staysApart rfl)⟩⟩
  obtain ⟨-, hFlat, -⟩ := foldAllOf_nestedAllOf hShaped (by simp) (by decide +kernel)
  refine ⟨hShaped, by decide +kernel, hFlat (.inl hFolds) _ ?_⟩
  exact Json.foldAllOf?_eq_ok_iff.mpr ⟨by decide +kernel, rfl⟩

/-- The inner branches are folded into each other beside a reference, but not when they are in one
list with it. -/
theorem foldAllOf_ne_of_reference :
    let nested := nestedAllOf [] [] [.obj [("$ref", .str "#/a")]]
      [requiring ["a"], requiring ["b"]] []
    let flat := flatAllOf [] [] [.obj [("$ref", .str "#/a")]] [requiring ["a"], requiring ["b"]] []
    (Json.obj nested).WellShaped ∧ (∀ branch ∈ [requiring ["a"], requiring ["b"]],
      branch.has "$ref" = false) ∧ (Json.obj nested).foldAllOf ≠ (Json.obj flat).foldAllOf := by
  have hNull : Json.null.Throughout Shaped := .of_members?_eq_none rfl
  have hReference : (Json.obj [("$ref", .str "#/a")]).Throughout Shaped :=
    .of_parts (shaped_of_get?_eq_none (by decide +kernel)) (List.forall_mem_singleton.mpr hNull)
  have hInner : (Json.obj (withAllOf [] []
      ([requiring ["a"], requiring ["b"]].map .obj))).Throughout Shaped := by
    refine .of_parts (shaped_of_get?_eq_none (by decide +kernel)) ?_
    exact List.forall_mem_cons.mpr ⟨throughout_requiring _,
      List.forall_mem_cons.mpr ⟨throughout_requiring _, List.forall_mem_singleton.mpr hNull⟩⟩
  refine ⟨⟨?_, ?_⟩, by decide +kernel, by decide +kernel⟩
  · simp [nestedAllOf, withAllOf, requiring, Json.NoDuplicates, Json.NoDuplicatesInMembers,
      Json.NoDuplicatesInItems]
  · refine .of_parts (shaped_of_get?_eq_none (by decide +kernel)) ?_
    exact List.forall_mem_cons.mpr ⟨hReference,
      List.forall_mem_cons.mpr ⟨hInner, List.forall_mem_singleton.mpr hNull⟩⟩

end Fragment

end SchemaOutline
