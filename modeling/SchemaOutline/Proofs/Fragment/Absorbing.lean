import SchemaOutline.AllOf
import SchemaOutline.Proofs.Fragment.Typing
import SchemaOutline.Proofs.Json.Reading

/-!
# What one fragment takes over from another

Absorbing goes through the members of one fragment and enters them one by one in another. Under
every name the result has what either fragment has there, and the two values combined where both
have one (`get?_absorb`); with entries of property lists it is the same (`get?_absorbNamed`). So a
property that either fragment declares is declared by the result (`property?_absorb`).
-/

set_option autoImplicit false

namespace SchemaOutline

namespace Members

variable {combine : String → Json → Json → Json} {target source : Members} {name : String}
  {v : Json}

theorem set_of_get? (h : target.get? name = some v) : target.set name v = target := by
  induction target with
  | nil => cases h
  | cons member rest ih =>
    obtain ⟨other, w⟩ := member
    rw [get?_cons] at h
    rw [set]
    split at h
    · rename_i hName
      cases h
      rw [hName, if_pos (beq_self_eq_true other)]
    · rename_i hName
      rw [if_neg (by simpa using Ne.symm hName), ih h]

theorem set_of_get?_eq_none (h : target.get? name = none) :
    target.set name v = target ++ [(name, v)] := by
  induction target with
  | nil => rfl
  | cons member rest ih =>
    obtain ⟨other, w⟩ := member
    rw [get?_cons] at h
    rw [set]
    split at h
    · cases h
    · rename_i hName
      rw [if_neg (by simpa using Ne.symm hName), ih h]
      rfl

/-- Enters the members of a source in a target one by one. Where the target has a value already, the
two are combined. -/
def mergeWith (combine : String → Json → Json → Json) (target : Members) : Members → Members
  | [] => target
  | (name, v) :: rest =>
    mergeWith combine (target.set name ((target.get? name).elim v (combine name · v))) rest

theorem get?_mergeWith (hNames : source.names.Nodup) (name : String) :
    (mergeWith combine target source).get? name =
      Option.merge (combine name) (target.get? name) (source.get? name) := by
  induction source generalizing target with
  | nil => cases h : target.get? name <;> simp [mergeWith, h, get?_nil]
  | cons member rest ih =>
    obtain ⟨other, v⟩ := member
    obtain ⟨hFresh, hRest⟩ := List.nodup_cons.mp hNames
    rw [mergeWith, ih hRest, get?_set, get?_cons]
    split
    · rename_i hName
      subst hName
      have hNone : get? rest name = none := by
        cases hGet : get? rest name with
        | none => rfl
        | some w => exact absurd (List.mem_map.mpr ⟨_, mem_of_get? hGet, rfl⟩) hFresh
      rw [hNone]
      cases target.get? name <;> rfl
    · rfl

theorem has_mergeWith (name : String) :
    (mergeWith combine target source).has name = (target.has name || source.has name) := by
  induction source generalizing target with
  | nil => rw [mergeWith, has, has, get?_nil, Option.isSome_none, Bool.or_false]
  | cons member rest ih =>
    obtain ⟨other, v⟩ := member
    rw [mergeWith, ih]
    unfold has
    rw [get?_set, get?_cons]
    split
    · simp
    · rfl

/-- Where the target's value always stays, the first of the two that there are is found. -/
theorem get?_mergeWith_of_present (h : ∀ present added, combine name present added = present) :
    (mergeWith combine target source).get? name = (target.get? name).or (source.get? name) := by
  induction source generalizing target with
  | nil => rw [mergeWith, get?_nil, Option.or_none]
  | cons member rest ih =>
    obtain ⟨other, v⟩ := member
    rw [mergeWith, ih, get?_set, get?_cons]
    split
    · rename_i hName
      subst hName
      cases target.get? name <;> simp [h]
    · rfl

theorem nodup_names_mergeWith (hTarget : target.names.Nodup) :
    (mergeWith combine target source).names.Nodup := by
  induction source generalizing target with
  | nil => exact hTarget
  | cons member rest ih => exact ih (nodup_names_set hTarget)

/-- What holds of the members of both sides and of combined values holds of every member of what is
entered in a target. -/
theorem forall_mem_mergeWith {p : String → Json → Prop}
    (hCombine : ∀ name present added, (name, added) ∈ source → p name present →
      p name (combine name present added))
    (hTarget : ∀ name v, (name, v) ∈ target → p name v)
    (hSource : ∀ name v, (name, v) ∈ source → p name v) :
    ∀ name v, (name, v) ∈ mergeWith combine target source → p name v := by
  induction source generalizing target with
  | nil => exact hTarget
  | cons member rest ih =>
    obtain ⟨other, added⟩ := member
    rw [mergeWith]
    apply ih
    · exact fun name present added hMem => hCombine name present added (List.mem_cons_of_mem _ hMem)
    · intro name v hMem
      rcases mem_set hMem with hMem | hNew
      · exact hTarget name v hMem
      · cases hNew
        cases hGet : target.get? other with
        | none => exact hSource other added List.mem_cons_self
        | some present =>
          exact hCombine other present added List.mem_cons_self
            (hTarget other present (mem_of_get? hGet))
    · exact fun name v hMem => hSource name v (List.mem_cons_of_mem _ hMem)

end Members

namespace Fragment

/-- What absorbing leaves under a keyword that both fragments have. -/
def combined (keyword : String) (present added : Json) : Json :=
  match added, present with
  | .obj named, _ =>
    if propertyKeywords.contains keyword then
      .obj (absorbNamed (present.members?.getD []) named)
    else present
  | .arr items, .arr already =>
    if keyword == "required" then .arr (union already items) else present
  | _, _ => present

/-- What absorbing leaves of two entries of one name in lists of properties. -/
def combinedEntry (present added : Json) : Json :=
  match present, added with
  | .obj fragment, .obj other => .obj (absorb fragment other)
  | _, _ => present

variable {target source named : Members} {name keyword : String}

theorem absorb_nil (target : Members) : absorb target [] = target := by rw [absorb]

theorem absorb_cons (target rest : Members) (keyword : String) (v : Json) :
    absorb target ((keyword, v) :: rest) =
      absorb (target.set keyword ((target.get? keyword).elim v (combined keyword · v))) rest := by
  cases hGet : target.get? keyword with
  | none =>
    have hHas : target.has keyword = false := by simp [Members.has, hGet]
    rw [Option.elim_none, Members.set_of_get?_eq_none hGet]
    cases v <;> (rw [absorb.eq_def]; simp [hHas])
  | some present =>
    have hHas : target.has keyword = true := by simp [Members.has, hGet]
    have hValue : target.get keyword = present := by simp [Members.get, hGet]
    -- Where a value prevails, setting it once more changes nothing.
    have hSame : target.set keyword present = target := Members.set_of_get? hGet
    rw [Option.elim_some]
    cases v with
    | obj named =>
      rw [absorb, if_pos hHas, hValue, combined]
      split
      · rfl
      · rw [hSame]
    | arr items =>
      rw [absorb.eq_def]
      simp only [if_pos hHas, hValue]
      cases present with
      | arr already =>
        simp only [combined]
        split
        · rfl
        · rw [hSame]
      | _ => simp only [combined, hSame]
    | _ =>
      rw [absorb.eq_def]
      simp only [if_pos hHas, combined, hSame]

theorem absorb_eq (target source : Members) :
    absorb target source = Members.mergeWith combined target source := by
  induction source generalizing target with
  | nil => exact absorb_nil target
  | cons member rest ih => rw [absorb_cons, ih, Members.mergeWith]

theorem absorbNamed_nil (target : Members) : absorbNamed target [] = target := by rw [absorbNamed]

theorem absorbNamed_cons (target rest : Members) (name : String) (v : Json) :
    absorbNamed target ((name, v) :: rest) =
      absorbNamed (target.set name ((target.get? name).elim v (combinedEntry · v))) rest := by
  cases hGet : target.get? name with
  | none =>
    have hHas : target.has name = false := by simp [Members.has, hGet]
    rw [Option.elim_none, Members.set_of_get?_eq_none hGet]
    cases v <;> simp [absorbNamed, hHas, hGet]
  | some present =>
    have hHas : target.has name = true := by simp [Members.has, hGet]
    have hSame : target.set name present = target := Members.set_of_get? hGet
    rw [Option.elim_some]
    cases v with
    | obj other => cases present <;> simp [absorbNamed, hGet, combinedEntry, hSame]
    | _ => cases present <;> simp [absorbNamed, hHas, combinedEntry, hSame]

theorem absorbNamed_eq (target named : Members) :
    absorbNamed target named = Members.mergeWith (fun _ => combinedEntry) target named := by
  induction named generalizing target with
  | nil => exact absorbNamed_nil target
  | cons member rest ih => rw [absorbNamed_cons, ih, Members.mergeWith]

/-- What holds of the entries of both lists and of combined entries holds of all entries. -/
theorem forall_values_absorbNamed {p : Json → Prop}
    (hCombine : ∀ name present added, (name, added) ∈ named → p present →
      p (combinedEntry present added))
    (hTarget : ∀ v ∈ target.values, p v) (hNamed : ∀ v ∈ named.values, p v) :
    ∀ v ∈ (absorbNamed target named).values, p v := by
  intro v hMem
  obtain ⟨⟨name, v⟩, hMember, rfl⟩ := List.mem_map.mp hMem
  rw [absorbNamed_eq] at hMember
  exact Members.forall_mem_mergeWith (p := fun _ v => p v) hCombine
    (fun _ v hMem => hTarget v (List.mem_map_of_mem hMem))
    (fun _ v hMem => hNamed v (List.mem_map_of_mem hMem)) name v hMember

theorem get?_absorb (hNames : source.names.Nodup) (keyword : String) :
    (absorb target source).get? keyword =
      Option.merge (combined keyword) (target.get? keyword) (source.get? keyword) := by
  rw [absorb_eq, Members.get?_mergeWith hNames]

theorem get?_absorbNamed (hNames : named.names.Nodup) (name : String) :
    (absorbNamed target named).get? name =
      Option.merge combinedEntry (target.get? name) (named.get? name) := by
  rw [absorbNamed_eq, Members.get?_mergeWith hNames]

theorem has_absorb (target source : Members) (keyword : String) :
    (absorb target source).has keyword = (target.has keyword || source.has keyword) := by
  rw [absorb_eq, Members.has_mergeWith]

theorem combined_property (hKeyword : keyword ∈ propertyKeywords) (present added : Json) :
    combined keyword present added = added.members?.elim present fun named =>
      .obj (absorbNamed (present.members?.getD []) named) := by
  have hRequired : ∀ keyword ∈ propertyKeywords, (keyword == "required") = false := by decide
  cases added with
  | obj named => exact if_pos (List.contains_iff_mem.mpr hKeyword)
  | arr items =>
    cases present with
    | arr already =>
      rw [combined, hRequired keyword hKeyword]
      rfl
    | _ => rfl
  | _ => rfl

theorem combined_of_other (hProperty : keyword ∉ propertyKeywords)
    (hRequired : keyword ≠ "required") (present added : Json) :
    combined keyword present added = present := by
  unfold combined
  split
  · rw [if_neg (by simpa using hProperty)]
  · rw [if_neg (by simpa using hRequired)]
  · rfl

/-- Under a keyword that is not united the value that is already there prevails. -/
theorem get?_absorb_of_other (target source : Members) (hProperty : keyword ∉ propertyKeywords)
    (hRequired : keyword ≠ "required") :
    (absorb target source).get? keyword = (target.get? keyword).or (source.get? keyword) := by
  rw [absorb_eq]
  exact Members.get?_mergeWith_of_present (combined_of_other hProperty hRequired)

theorem get_absorb_of_other (target source : Members) (hProperty : keyword ∉ propertyKeywords)
    (hRequired : keyword ≠ "required") :
    (absorb target source).get keyword = target.get keyword ∨
      (absorb target source).get keyword = source.get keyword := by
  unfold Members.get
  rw [get?_absorb_of_other target source hProperty hRequired]
  cases target.get? keyword with
  | none => exact .inr rfl
  | some present => exact .inl rfl

/-! ### Names stay different -/

theorem noDuplicates_union {first second : List Json} (hFirst : (Json.arr first).NoDuplicates)
    (hSecond : (Json.arr second).NoDuplicates) :
    (Json.arr (union first second)).NoDuplicates := by
  rw [Json.NoDuplicates, Json.noDuplicatesInItems_iff]
  intro v hMem
  rcases List.mem_append.mp hMem with hMem | hMem
  · exact hFirst.of_mem_items hMem
  · exact hSecond.of_mem_items (List.mem_filter.mp hMem).1

mutual

theorem noDuplicates_absorb (target source : Members) (hTarget : (Json.obj target).NoDuplicates)
    (hSource : (Json.obj source).NoDuplicates) :
    (Json.obj (absorb target source)).NoDuplicates := by
  apply Json.NoDuplicates.of_get?
  · rw [absorb_eq]
    exact Members.nodup_names_mergeWith hTarget.names
  · intro keyword v hGet
    rw [get?_absorb hSource.names, Option.merge_eq_some_iff] at hGet
    obtain ⟨hPresent, -⟩ | ⟨-, hAdded⟩ | ⟨present, added, hPresent, hAdded, rfl⟩ := hGet
    · exact hTarget.get? hPresent
    · exact hSource.get? hAdded
    · have hOld := hTarget.get? hPresent
      unfold combined
      split
      · rename_i named
        split
        · exact noDuplicates_absorbNamed _ named hOld.members?_getD (hSource.get? hAdded)
        · exact hOld
      · rename_i items already
        split
        · exact noDuplicates_union hOld (hSource.get? hAdded)
        · exact hOld
      · exact hOld
termination_by sizeOf source
decreasing_by
  have hLt := Members.sizeOf_lt_of_get? hAdded
  simp only [Json.obj.sizeOf_spec] at hLt
  omega

theorem noDuplicates_absorbNamed (target named : Members) (hTarget : (Json.obj target).NoDuplicates)
    (hNamed : (Json.obj named).NoDuplicates) :
    (Json.obj (absorbNamed target named)).NoDuplicates := by
  apply Json.NoDuplicates.of_get?
  · rw [absorbNamed_eq]
    exact Members.nodup_names_mergeWith hTarget.names
  · intro name v hGet
    rw [get?_absorbNamed hNamed.names, Option.merge_eq_some_iff] at hGet
    obtain ⟨hPresent, -⟩ | ⟨-, hAdded⟩ | ⟨present, added, hPresent, hAdded, rfl⟩ := hGet
    · exact hTarget.get? hPresent
    · exact hNamed.get? hAdded
    · have hOld := hTarget.get? hPresent
      unfold combinedEntry
      split
      · rename_i fragment other
        exact noDuplicates_absorb fragment other hOld (hNamed.get? hAdded)
      · exact hOld
termination_by sizeOf named
decreasing_by
  have hLt := Members.sizeOf_lt_of_get? hAdded
  simp only [Json.obj.sizeOf_spec] at hLt
  omega

end

/-! ### What holds throughout both fragments -/

theorem properties_absorb (target : Members) (hNames : source.names.Nodup)
    (hKeyword : keyword ∈ propertyKeywords) :
    (absorb target source).get keyword = target.get keyword ∨
      (absorb target source).get keyword = source.get keyword ∨
      ∃ named, source.get? keyword = some (.obj named) ∧ (absorb target source).get keyword =
        .obj (absorbNamed ((target.get keyword).members?.getD []) named) := by
  have hRequired : ∀ keyword ∈ propertyKeywords, (keyword == "required") = false := by decide
  unfold Members.get
  rw [get?_absorb hNames]
  cases target.get? keyword with
  | none => exact .inr (.inl (by simp))
  | some present =>
    cases source.get? keyword with
    | none => exact .inl rfl
    | some added =>
      cases added with
      | obj named => exact .inr (.inr ⟨named, rfl, by simp [combined, hKeyword]⟩)
      | arr items => exact .inl (by cases present <;> simp [combined, hRequired keyword hKeyword])
      | _ => exact .inl (by simp [combined])

/-- A property of fragments that does not get lost when one takes over what the other has. -/
def SurvivesAbsorbing (p : Members → Prop) : Prop :=
  ∀ target source, source.names.Nodup → p target → p source → p (absorb target source)

section

variable {p : Members → Prop}

mutual

theorem throughout_absorb (hp : SurvivesAbsorbing p) (target source : Members)
    (hTargetNames : (Json.obj target).NoDuplicates) (hSourceNames : (Json.obj source).NoDuplicates)
    (hTarget : (Json.obj target).Throughout p) (hSource : (Json.obj source).Throughout p) :
    (Json.obj (absorb target source)).Throughout p := by
  apply Json.Throughout.of_parts (hp _ _ hSourceNames.names hTarget.root hSource.root)
  intro v hMem
  have hOther : ∀ keyword ∈ ["allOf", "anyOf", "oneOf", "items"],
      (absorb target source).get keyword = target.get keyword ∨
        (absorb target source).get keyword = source.get keyword := by
    have hKeywords : ∀ keyword ∈ ["allOf", "anyOf", "oneOf", "items"],
        keyword ∉ propertyKeywords ∧ keyword ≠ "required" := by decide
    intro keyword hKeyword
    obtain ⟨hProperty, hRequired⟩ := hKeywords keyword hKeyword
    exact get_absorb_of_other target source hProperty hRequired
  obtain ⟨keyword, hKeyword, hMem⟩ | rfl | ⟨keyword, hKeyword, hMem⟩ := mem_parts_iff.mp hMem
  · obtain hSame | hSame := hOther keyword hKeyword <;> rw [hSame] at hMem
    · exact hTarget.of_mem_items hKeyword hMem
    · exact hSource.of_mem_items hKeyword hMem
  · obtain hSame | hSame := hOther "items" (by decide) <;> rw [hSame]
    · exact hTarget.of_get_items
    · exact hSource.of_get_items
  · obtain hSame | hSame | ⟨named, hNamed, hUnited⟩ :=
      properties_absorb target hSourceNames.names hKeyword
    · rw [hSame] at hMem
      exact hTarget.of_mem_named hKeyword hMem
    · rw [hSame] at hMem
      exact hSource.of_mem_named hKeyword hMem
    · -- Only what stands under a property keyword of the source is absorbed in its turn.
      rw [hUnited] at hMem
      refine throughout_absorbNamed hp _ named (hTargetNames.get keyword).members?_getD
        (hSourceNames.get? hNamed) (fun v => hTarget.of_mem_named hKeyword) ?_ v hMem
      intro v hMem
      refine hSource.of_mem_named hKeyword ?_
      rwa [Members.get, hNamed]
termination_by sizeOf source
decreasing_by
  have hLt := Members.sizeOf_lt_of_get? hNamed
  simp only [Json.obj.sizeOf_spec] at hLt
  omega

theorem throughout_absorbNamed (hp : SurvivesAbsorbing p) (target named : Members)
    (hTargetNames : (Json.obj target).NoDuplicates) (hNamedNames : (Json.obj named).NoDuplicates)
    (hTarget : ∀ v ∈ target.values, v.Throughout p) (hNamed : ∀ v ∈ named.values, v.Throughout p) :
    ∀ v ∈ (absorbNamed target named).values, v.Throughout p := by
  intro v hMem
  obtain ⟨name, hGet⟩ := Members.exists_get?_of_mem_values
    (noDuplicates_absorbNamed target named hTargetNames hNamedNames).names hMem
  rw [get?_absorbNamed hNamedNames.names, Option.merge_eq_some_iff] at hGet
  obtain ⟨hPresent, -⟩ | ⟨-, hAdded⟩ | ⟨present, added, hPresent, hAdded, rfl⟩ := hGet
  · exact hTarget _ (Members.mem_values_of_get? hPresent)
  · exact hNamed _ (Members.mem_values_of_get? hAdded)
  · have hOld := hTarget _ (Members.mem_values_of_get? hPresent)
    unfold combinedEntry
    split
    · rename_i fragment other
      exact throughout_absorb hp fragment other (hTargetNames.get? hPresent)
        (hNamedNames.get? hAdded) hOld (hNamed _ (Members.mem_values_of_get? hAdded))
    · exact hOld
termination_by sizeOf named
decreasing_by
  have hLt := Members.sizeOf_lt_of_get? hAdded
  simp only [Json.obj.sizeOf_spec] at hLt
  omega

end

end

/-! ### Declared properties -/

def property? (fragment : Members) (name : String) : Option Json :=
  (fragment.get "properties").members?.bind fun named => Members.get? named name

theorem property?_absorb (hSource : (Json.obj source).NoDuplicates) (name : String) :
    property? (absorb target source) name =
      Option.merge combinedEntry (property? target name) (property? source name) := by
  unfold property? Members.get
  rw [get?_absorb hSource.names]
  cases target.get? "properties" with
  | none => simp [Json.members?]
  | some present =>
    cases hAdded : source.get? "properties" with
    | none => simp [Json.members?]
    | some added =>
      rw [Option.merge_some_some, Option.getD_some, Option.getD_some, Option.getD_some]
      cases added with
      | obj named =>
        have hCombined : combined "properties" present (.obj named) =
            .obj (absorbNamed (present.members?.getD []) named) := rfl
        have hPresent : Members.get? (present.members?.getD []) name =
            present.members?.bind fun named => Members.get? named name := by
          cases present <;> rfl
        rw [hCombined, ← hPresent]
        exact get?_absorbNamed (hSource.get? hAdded).names name
      | arr items =>
        have hCombined : combined "properties" present (.arr items) = present := by
          cases present <;> rfl
        rw [hCombined]
        exact (Option.merge_none_right ..).symm
      | _ => exact (Option.merge_none_right ..).symm

end Fragment

end SchemaOutline
