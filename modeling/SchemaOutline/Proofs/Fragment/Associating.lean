import SchemaOutline.Proofs.Fragment.Folded

/-!
# Absorbing several fragments

In a well-shaped document properties are fragments and `required` lists names. Among the fragments
of such documents absorbing is associative, and the empty fragment is neutral (`absorb_assoc`,
`absorb_nil`, `nil_absorb`). Nothing is left out of this: the members come in the same order too,
that in which they first occur (`Members.names_mergeWith`).
-/

set_option autoImplicit false

namespace SchemaOutline

/-- The first names and then those of the second ones that are new. -/
def appendNew (first second : List String) : List String :=
  first ++ second.filter fun name => !first.contains name

theorem mem_appendNew_iff {first second : List String} {name : String} :
    name ∈ appendNew first second ↔ name ∈ first ∨ name ∈ second := by
  rw [appendNew, List.mem_append, List.mem_filter]
  by_cases hFirst : name ∈ first <;> simp [hFirst]

theorem appendNew_assoc (first second third : List String) :
    appendNew (appendNew first second) third = appendNew first (appendNew second third) := by
  have hNew (name : String) : (!(appendNew first second).contains name) =
      (!first.contains name && !second.contains name) := by
    rw [← Bool.not_or, Bool.not_inj_iff, Bool.eq_iff_iff, Bool.or_eq_true]
    simp only [List.contains_iff_mem]
    exact mem_appendNew_iff
  have hThird : third.filter (fun name => !(appendNew first second).contains name) =
      (third.filter fun name => !second.contains name).filter fun name => !first.contains name := by
    rw [List.filter_filter]
    exact List.filter_congr fun name _ => hNew name
  rw [appendNew, hThird, appendNew, appendNew, appendNew, List.filter_append, List.append_assoc]

theorem appendNew_singleton (first : List String) (name : String) :
    appendNew first [name] = if name ∈ first then first else first ++ [name] := by
  rw [appendNew]
  split
  · rename_i hMem
    rw [List.filter_cons_of_neg (by simpa using hMem), List.filter_nil, List.append_nil]
  · rename_i hMem
    rw [List.filter_cons_of_pos (by simpa using hMem), List.filter_nil]

namespace Members

variable {combine : String → Json → Json → Json} {target source first second third : Members}

theorem names_cons (member : String × Json) (rest : Members) :
    names (member :: rest) = member.1 :: names rest := rfl

theorem names_set (members : Members) (name : String) (v : Json) :
    (members.set name v).names = appendNew members.names [name] := by
  rw [appendNew_singleton]
  induction members with
  | nil => rfl
  | cons member rest ih =>
    rw [set]
    split
    · rename_i hName
      rw [if_pos (by simp [names, eq_of_beq hName])]
      rfl
    · rename_i hName
      have hNe : name ≠ member.1 := fun hEq => hName (beq_iff_eq.mpr hEq.symm)
      rw [names_cons, names_cons, ih]
      by_cases hMem : name ∈ names rest
      · rw [if_pos hMem, if_pos (List.mem_cons_of_mem _ hMem)]
      · rw [if_neg hMem, if_neg (List.not_mem_cons_of_ne_of_not_mem hNe hMem), List.cons_append]

/-- What is entered in a target leaves the names where they are and appends the new ones. -/
theorem names_mergeWith (hSource : source.names.Nodup) :
    (mergeWith combine target source).names = appendNew target.names source.names := by
  induction source generalizing target with
  | nil => exact (List.append_nil _).symm
  | cons member rest ih =>
    obtain ⟨name, v⟩ := member
    obtain ⟨hFresh, hRest⟩ := List.nodup_cons.mp hSource
    have hCons : appendNew [name] (names rest) = name :: names rest := by
      rw [appendNew, List.filter_eq_self.mpr]
      · rfl
      · intro other hMem
        have hNe : other ≠ name := fun hEq => hFresh (hEq ▸ hMem)
        simp [hNe]
    rw [mergeWith, ih hRest, names_set, appendNew_assoc, hCons]
    rfl

theorem ext_of_get? (hNames : first.names = second.names) (hNodup : first.names.Nodup)
    (h : ∀ name ∈ first.names, first.get? name = second.get? name) : first = second := by
  induction first generalizing second with
  | nil => exact (List.map_eq_nil_iff.mp hNames.symm).symm
  | cons member rest ih =>
    cases second with
    | nil => cases hNames
    | cons other others =>
      obtain ⟨name, v⟩ := member
      obtain ⟨otherName, w⟩ := other
      obtain ⟨hName, hRestNames⟩ := List.cons.inj hNames
      obtain rfl : name = otherName := hName
      obtain ⟨hFresh, hRest⟩ := List.nodup_cons.mp hNodup
      have hValue : some v = some w := by
        have hGet := h name List.mem_cons_self
        rwa [get?_cons, get?_cons, if_pos rfl, if_pos rfl] at hGet
      have hSame : rest = others := by
        apply ih hRestNames hRest
        intro other hMem
        have hNe : other ≠ name := fun hEq => hFresh (hEq ▸ hMem)
        have hGet := h other (List.mem_cons_of_mem _ hMem)
        rwa [get?_cons, get?_cons, if_neg hNe, if_neg hNe] at hGet
      rw [Option.some.inj hValue, hSame]

/-- Entering is associative if combining is, where all three have a value. -/
theorem mergeWith_assoc (hFirst : first.names.Nodup) (hSecond : second.names.Nodup)
    (hThird : third.names.Nodup)
    (h : ∀ name a b c, first.get? name = some a → second.get? name = some b →
      third.get? name = some c →
        combine name (combine name a b) c = combine name a (combine name b c)) :
    mergeWith combine (mergeWith combine first second) third =
      mergeWith combine first (mergeWith combine second third) := by
  have hInner : (mergeWith combine second third).names.Nodup := nodup_names_mergeWith hSecond
  apply ext_of_get?
  · rw [names_mergeWith hThird, names_mergeWith hSecond, names_mergeWith hInner,
      names_mergeWith hThird, appendNew_assoc]
  · exact nodup_names_mergeWith (nodup_names_mergeWith hFirst)
  · intro name _
    rw [get?_mergeWith hThird, get?_mergeWith hSecond, get?_mergeWith hInner,
      get?_mergeWith hThird]
    cases hA : first.get? name with
    | none => rw [Option.merge_none_left, Option.merge_none_left]
    | some a =>
      cases hB : second.get? name with
      | none => rw [Option.merge_none_right, Option.merge_none_left]
      | some b =>
        cases hC : third.get? name with
        | none => rw [Option.merge_none_right, Option.merge_none_right]
        | some c => exact congrArg some (h name a b c hA hB hC)

theorem nil_mergeWith (hSource : source.names.Nodup) : mergeWith combine [] source = source := by
  apply ext_of_get?
  · rw [names_mergeWith hSource, appendNew]
    exact List.filter_eq_self.mpr fun _ _ => rfl
  · exact nodup_names_mergeWith List.nodup_nil
  · intro name _
    rw [get?_mergeWith hSource, get?_nil, Option.merge_none_left]

end Members

/-! ### Well-shaped documents -/

namespace Fragment

/-- The properties that a fragment declares are fragments, and what it requires is a list of
names. -/
structure Shaped (fragment : Members) : Prop where
  property : ∀ keyword ∈ propertyKeywords, ∀ named : Members,
    fragment.get? keyword = some (.obj named) → ∀ v ∈ named.values, v.members?.isSome
  required : ∀ v, fragment.get? "required" = some v → ∃ names : List String,
    v = .arr (names.map .str)

end Fragment

/-- No name is taken twice in the document, and all its fragments are shaped as they should be. -/
structure Json.WellShaped (document : Json) : Prop where
  names : document.NoDuplicates
  shaped : document.Throughout Fragment.Shaped

namespace Fragment

/-- What stands under a property keyword of a well-shaped fragment. -/
structure WellShapedEntries (named : Members) : Prop where
  names : (Json.obj named).NoDuplicates
  entry : ∀ v ∈ named.values, v.members?.isSome ∧ v.Throughout Shaped

variable {fragment target source named : Members} {keyword name : String} {v present added : Json}

theorem WellShapedEntries.get? (h : WellShapedEntries named) (hGet : named.get? name = some v) :
    ∃ fragment, v = .obj fragment ∧ (Json.obj fragment).WellShaped := by
  obtain ⟨hFragment, hShaped⟩ := h.entry v (Members.mem_values_of_get? hGet)
  obtain ⟨fragment, hMembers⟩ := Option.isSome_iff_exists.mp hFragment
  obtain rfl := Json.members?_eq_some_iff.mp hMembers
  exact ⟨fragment, rfl, h.names.get? hGet, hShaped⟩

theorem entries_of_wellShaped (h : (Json.obj fragment).WellShaped)
    (hKeyword : keyword ∈ propertyKeywords) (hGet : fragment.get? keyword = some v) :
    WellShapedEntries (v.members?.getD []) := by
  cases v with
  | obj named =>
    refine ⟨h.names.get? hGet, fun v hMem => ⟨?_, h.shaped.of_mem_named hKeyword ?_⟩⟩
    · exact h.shaped.root.property keyword hKeyword named hGet v hMem
    · rwa [Members.get, hGet]
  | _ => exact ⟨.of_get? List.nodup_nil nofun, nofun⟩

/-! ### Three fragments -/

theorem union_names (first second : List String) :
    union (first.map .str) (second.map .str) = (appendNew first second).map .str := by
  have hNew (name : String) : (!(first.map Json.str).any ((Json.str name).agrees ·)) =
      !first.contains name := by
    rw [List.any_map, List.contains_eq_any_beq]
    rfl
  rw [union, appendNew, List.map_append, List.filter_map]
  congr 2
  exact List.filter_congr fun name _ => hNew name

theorem combined_required (first second : List String) :
    combined "required" (.arr (first.map .str)) (.arr (second.map .str)) =
      .arr ((appendNew first second).map .str) := by
  rw [combined, if_pos (beq_self_eq_true _), union_names]

theorem nil_absorb (hSource : source.names.Nodup) : absorb [] source = source := by
  rw [absorb_eq, Members.nil_mergeWith hSource]

theorem nil_absorbNamed (hNamed : named.names.Nodup) : absorbNamed [] named = named := by
  rw [absorbNamed_eq, Members.nil_mergeWith hNamed]

mutual

/-- It does not matter in which order well-shaped fragments are absorbed in each other. -/
theorem absorb_assoc (first second third : Members) (hFirst : (Json.obj first).WellShaped)
    (hSecond : (Json.obj second).WellShaped) (hThird : (Json.obj third).WellShaped) :
    absorb (absorb first second) third = absorb first (absorb second third) := by
  rw [absorb_eq, absorb_eq, absorb_eq, absorb_eq]
  apply Members.mergeWith_assoc hFirst.names.names hSecond.names.names hThird.names.names
  intro keyword a b c hA hB hC
  by_cases hProperty : keyword ∈ propertyKeywords
  · have hEntriesA := entries_of_wellShaped hFirst hProperty hA
    have hEntriesB := entries_of_wellShaped hSecond hProperty hB
    have hEntriesC := entries_of_wellShaped hThird hProperty hC
    simp only [combined_property hProperty]
    cases c with
    | obj named =>
      cases b with
      | obj others =>
        exact congrArg Json.obj
          (absorbNamed_assoc _ others named hEntriesA hEntriesB hEntriesC)
      | _ =>
        -- Properties of the third fragment replace what is no mapping in the second.
        have hNew : absorbNamed [] named = named := nil_absorbNamed hEntriesC.names.names
        exact congrArg (fun entries => Json.obj (absorbNamed _ entries)) hNew.symm
    | _ => rfl
  · by_cases hRequired : keyword = "required"
    · subst hRequired
      obtain ⟨namesA, rfl⟩ := hFirst.shaped.root.required a hA
      obtain ⟨namesB, rfl⟩ := hSecond.shaped.root.required b hB
      obtain ⟨namesC, rfl⟩ := hThird.shaped.root.required c hC
      rw [combined_required, combined_required, combined_required, combined_required,
        appendNew_assoc]
    · simp only [combined_of_other hProperty hRequired]
termination_by sizeOf third
decreasing_by
  have hLt := Members.sizeOf_lt_of_get? hC
  simp only [Json.obj.sizeOf_spec] at hLt
  omega

theorem absorbNamed_assoc (first second third : Members) (hFirst : WellShapedEntries first)
    (hSecond : WellShapedEntries second) (hThird : WellShapedEntries third) :
    absorbNamed (absorbNamed first second) third =
      absorbNamed first (absorbNamed second third) := by
  rw [absorbNamed_eq, absorbNamed_eq, absorbNamed_eq, absorbNamed_eq]
  apply Members.mergeWith_assoc hFirst.names.names hSecond.names.names hThird.names.names
  intro name a b c hA hB hC
  obtain ⟨fragmentA, rfl, hFragmentA⟩ := hFirst.get? hA
  obtain ⟨fragmentB, rfl, hFragmentB⟩ := hSecond.get? hB
  obtain ⟨fragmentC, rfl, hFragmentC⟩ := hThird.get? hC
  exact congrArg Json.obj
    (absorb_assoc fragmentA fragmentB fragmentC hFragmentA hFragmentB hFragmentC)
termination_by sizeOf third
decreasing_by
  have hLt := Members.sizeOf_lt_of_get? hC
  simp only [Json.obj.sizeOf_spec] at hLt
  omega

end

/-! ### Fragments stay well-shaped -/

theorem survivesAbsorbing_shaped : SurvivesAbsorbing Shaped := by
  intro target source hNames hTarget hSource
  constructor
  · intro keyword hKeyword named hGet
    rw [get?_absorb hNames, Option.merge_eq_some_iff] at hGet
    obtain ⟨hPresent, -⟩ | ⟨-, hAdded⟩ | ⟨present, added, hPresent, hAdded, hCombined⟩ := hGet
    · exact hTarget.property keyword hKeyword named hPresent
    · exact hSource.property keyword hKeyword named hAdded
    · rw [combined_property hKeyword] at hCombined
      cases added with
      | obj others =>
        obtain rfl := Json.obj.inj hCombined
        apply forall_values_absorbNamed _ _ (hSource.property keyword hKeyword others hAdded)
        · intro name first second _ hFirst
          rwa [isSome_members?_combinedEntry]
        · cases present with
          | obj already => exact hTarget.property keyword hKeyword already hPresent
          | _ => exact List.forall_mem_nil _
      | _ =>
        obtain rfl : present = .obj named := hCombined
        exact hTarget.property keyword hKeyword named hPresent
  · intro v hGet
    rw [get?_absorb hNames, Option.merge_eq_some_iff] at hGet
    obtain ⟨hPresent, -⟩ | ⟨-, hAdded⟩ | ⟨present, added, hPresent, hAdded, rfl⟩ := hGet
    · exact hTarget.required v hPresent
    · exact hSource.required v hAdded
    · obtain ⟨first, rfl⟩ := hTarget.required present hPresent
      obtain ⟨second, rfl⟩ := hSource.required added hAdded
      exact ⟨appendNew first second, combined_required first second⟩

theorem wellShaped_absorb (hTarget : (Json.obj target).WellShaped)
    (hSource : (Json.obj source).WellShaped) : (Json.obj (absorb target source)).WellShaped :=
  ⟨noDuplicates_absorb target source hTarget.names hSource.names,
    throughout_absorb survivesAbsorbing_shaped target source hTarget.names hSource.names
      hTarget.shaped hSource.shaped⟩

/-- To absorb what several fragments come to is to absorb them in turn. -/
theorem absorb_foldl {start : Members} {branches : List Members}
    (hTarget : (Json.obj target).WellShaped) (hStart : (Json.obj start).WellShaped)
    (hBranches : ∀ branch ∈ branches, (Json.obj branch).WellShaped) :
    absorb target (branches.foldl absorb start) = branches.foldl absorb (absorb target start) := by
  induction branches generalizing start with
  | nil => rfl
  | cons branch rest ih =>
    obtain ⟨hBranch, hRest⟩ := List.forall_mem_cons.mp hBranches
    rw [List.foldl_cons, List.foldl_cons, ih (wellShaped_absorb hStart hBranch) hRest,
      absorb_assoc target start branch hTarget hStart hBranch]

theorem wellShaped_foldl_absorb {start : Members} {branches : List Members}
    (hStart : (Json.obj start).WellShaped)
    (hBranches : ∀ branch ∈ branches, (Json.obj branch).WellShaped) :
    (Json.obj (branches.foldl absorb start)).WellShaped :=
  List.foldlRecOn (motive := fun target => (Json.obj target).WellShaped) branches absorb hStart
    fun _ hTarget branch hMem => wellShaped_absorb hTarget (hBranches branch hMem)

theorem wellShaped_nil : (Json.obj []).WellShaped := by
  refine ⟨.of_get? List.nodup_nil nofun, .of_contains ⟨fun _ _ _ => nofun, nofun⟩ ?_⟩
  intro part hPart
  obtain ⟨_, _, hGet, -⟩ := exists_get?_of_contains hPart
  cases hGet

/-- Fragments that are absorbed in a row may as well be absorbed in each other before. -/
theorem foldl_absorb_nested {start : Members} {before inner after : List Members}
    (hStart : (Json.obj start).WellShaped)
    (hBefore : ∀ branch ∈ before, (Json.obj branch).WellShaped)
    (hInner : ∀ branch ∈ inner, (Json.obj branch).WellShaped) :
    (before ++ inner.foldl absorb [] :: after).foldl absorb start =
      (before ++ inner ++ after).foldl absorb start := by
  have hTarget := wellShaped_foldl_absorb hStart hBefore
  rw [List.foldl_append, List.foldl_cons, absorb_foldl hTarget wellShaped_nil hInner, absorb_nil,
    List.foldl_append, List.foldl_append]

end Fragment

end SchemaOutline
