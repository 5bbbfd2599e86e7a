import SchemaOutline.Proofs.Fragment.Folded
import SchemaOutline.Proofs.Fragment.Folding

/-!
# Folding what has been folded

What folding leaves is a normal form (`Json.Refined`): no fragment that folding comes to has an
`allOf` that could be folded. Absorbing does not lead out of it (`refined_schemas_absorb`), although
properties that two fragments share are not folded again, and so folding leads into it
(`refined_foldAllOf`). A value in normal form is left as it is, so that folding a second time
changes nothing, not even the order of members, and never goes deeper (`foldAllOf_foldAllOf`).
-/

set_option autoImplicit false

namespace SchemaOutline

namespace Fragment

/-- The values under a keyword that folding takes for schemas. -/
def schemasUnder (keyword : String) : Json → List Json
  | .obj inner =>
    if namedSchemaKeywords.contains keyword then Members.values inner
    else if schemaKeywords.contains keyword then [.obj inner]
    else []
  | .arr items =>
    if schemaListKeywords.contains keyword || schemaKeywords.contains keyword then items else []
  | _ => []

def schemas (fragment : Members) : List Json :=
  fragment.flatMap fun (keyword, v) => schemasUnder keyword v

variable {fragment part : Members} {keyword : String} {v w : Json}

theorem mem_schemas_iff :
    w ∈ schemas fragment ↔ ∃ keyword v, (keyword, v) ∈ fragment ∧ w ∈ schemasUnder keyword v := by
  rw [schemas, List.mem_flatMap]
  constructor
  · rintro ⟨⟨keyword, v⟩, hMem, hSchema⟩
    exact ⟨keyword, v, hMem, hSchema⟩
  · rintro ⟨keyword, v, hMem, hSchema⟩
    exact ⟨(keyword, v), hMem, hSchema⟩

theorem mem_schemas_cons_iff {rest : Members} :
    w ∈ schemas ((keyword, v) :: rest) ↔ w ∈ schemasUnder keyword v ∨ w ∈ schemas rest := by
  rw [schemas, List.flatMap_cons, List.mem_append]
  rfl

theorem schemasUnder_named (hKeyword : keyword ∈ namedSchemaKeywords) (inner : Members) :
    schemasUnder keyword (.obj inner) = inner.values := by
  rw [schemasUnder, if_pos (List.contains_iff_mem.mpr hKeyword)]

theorem schemasUnder_schema (hKeyword : keyword ∈ schemaKeywords) (inner : Members) :
    schemasUnder keyword (.obj inner) = [.obj inner] := by
  have hNamed : ∀ keyword ∈ schemaKeywords, keyword ∉ namedSchemaKeywords := by decide
  rw [schemasUnder, if_neg (by simpa using hNamed keyword hKeyword),
    if_pos (List.contains_iff_mem.mpr hKeyword)]

theorem schemasUnder_listed (hKeyword : keyword ∈ schemaListKeywords ∨ keyword ∈ schemaKeywords)
    (items : List Json) : schemasUnder keyword (.arr items) = items := by
  rw [schemasUnder, if_pos (by simpa using hKeyword)]

theorem schemasUnder_eq_nil (hNamed : keyword ∉ namedSchemaKeywords)
    (hListed : keyword ∉ schemaListKeywords) (hSchema : keyword ∉ schemaKeywords) (v : Json) :
    schemasUnder keyword v = [] := by
  cases v <;> simp [schemasUnder, hNamed, hListed, hSchema]

theorem namedSchema_of_property : ∀ keyword ∈ propertyKeywords, keyword ∈ namedSchemaKeywords := by
  decide

theorem mem_schemas_of_erase {name : String} (h : w ∈ schemas (fragment.erase name)) :
    w ∈ schemas fragment := by
  obtain ⟨keyword, v, hMem, hSchema⟩ := mem_schemas_iff.mp h
  exact mem_schemas_iff.mpr ⟨keyword, v, (List.mem_filter.mp hMem).1, hSchema⟩

theorem mem_schemas_of_contains (h : Contains fragment part) : .obj part ∈ schemas fragment := by
  have hListed : ∀ keyword ∈ ["allOf", "anyOf", "oneOf", "items"],
      keyword ∈ schemaListKeywords ∨ keyword ∈ schemaKeywords := by decide
  rw [mem_schemas_iff]
  obtain ⟨keyword, hKeyword, hMem⟩ | hItems | ⟨keyword, hKeyword, hMem⟩ := mem_parts_iff.mp h
  · cases hGet : fragment.get keyword with
    | arr items =>
      rw [hGet] at hMem
      refine ⟨keyword, _, Members.mem_of_get? (Members.get?_of_get_eq_arr hGet), ?_⟩
      rwa [schemasUnder_listed (hListed keyword hKeyword)]
    | _ =>
      rw [hGet] at hMem
      cases hMem
  · refine ⟨"items", _, Members.mem_of_get? (Members.get?_of_get_eq_obj hItems.symm), ?_⟩
    rw [schemasUnder_schema (by decide)]
    exact List.mem_singleton_self _
  · cases hGet : fragment.get keyword with
    | obj named =>
      rw [hGet] at hMem
      refine ⟨keyword, _, Members.mem_of_get? (Members.get?_of_get_eq_obj hGet), ?_⟩
      rwa [schemasUnder_named (namedSchema_of_property keyword hKeyword)]
    | _ =>
      rw [hGet] at hMem
      cases hMem

theorem sizeOf_lt_of_mem_schemasUnder (h : w ∈ schemasUnder keyword v) :
    sizeOf w < sizeOf v + 1 := by
  cases v with
  | obj inner =>
    rw [schemasUnder] at h
    split at h
    · obtain ⟨⟨name, w⟩, hMem, rfl⟩ := List.mem_map.mp h
      have hLt := List.sizeOf_lt_of_mem hMem
      simp only [Prod.mk.sizeOf_spec, Json.obj.sizeOf_spec] at hLt ⊢
      omega
    · split at h
      · rw [List.mem_singleton.mp h]
        exact Nat.lt_succ_self _
      · cases h
  | arr items =>
    rw [schemasUnder] at h
    split at h
    · have hLt := List.sizeOf_lt_of_mem h
      simp only [Json.arr.sizeOf_spec]
      omega
    · cases h
  | _ => cases h

theorem sizeOf_lt_of_mem_schemas (h : w ∈ schemas fragment) : sizeOf w < sizeOf fragment := by
  obtain ⟨keyword, v, hMem, hSchema⟩ := mem_schemas_iff.mp h
  have hValue := sizeOf_lt_of_mem_schemasUnder hSchema
  have hMember := List.sizeOf_lt_of_mem hMem
  simp only [Prod.mk.sizeOf_spec] at hMember
  omega

end Fragment

/-! ### Folding works on the schemas -/

namespace Json

open Fragment

variable {members : Members} {keyword : String} {v w : Json}

theorem settledUnder_of_schemas {depth : Nat}
    (h : ∀ w ∈ schemasUnder keyword v, w.Settled depth) : SettledUnder depth keyword v := by
  refine ⟨?_, ?_, ?_⟩
  · rintro inner rfl hKeyword member hMem
    refine h member.2 ?_
    rw [schemasUnder_named hKeyword]
    exact List.mem_map_of_mem hMem
  · intro hKeyword
    cases v with
    | obj inner =>
      refine h _ ?_
      rw [schemasUnder_schema hKeyword]
      exact List.mem_singleton_self _
    | _ => exact ⟨rfl, Nat.zero_le _⟩
  · rintro items rfl hKeyword item hMem
    refine h item ?_
    rwa [schemasUnder_listed hKeyword]

theorem exists_of_mem_schemasUnder_fold (h : w ∈ schemasUnder keyword (foldUnder keyword v)) :
    ∃ inner ∈ schemasUnder keyword v, w = inner.foldAllOf := by
  cases v with
  | obj inner =>
    rw [foldUnder] at h
    rw [schemasUnder]
    split at h
    · rename_i hNamed
      rw [schemasUnder, if_pos hNamed, values_foldNamed] at h
      rw [if_pos hNamed]
      obtain ⟨v, hMem, rfl⟩ := List.mem_map.mp h
      exact ⟨v, hMem, rfl⟩
    · rename_i hNamed
      rw [if_neg hNamed]
      split at h
      · rename_i hSchema
        rw [foldAllOf_obj, schemasUnder, if_neg hNamed, if_pos hSchema, ← foldAllOf_obj] at h
        rw [if_pos hSchema]
        exact ⟨.obj inner, List.mem_singleton_self _, List.mem_singleton.mp h⟩
      · rename_i hSchema
        rw [schemasUnder, if_neg hNamed, if_neg hSchema] at h
        cases h
  | arr items =>
    rw [foldUnder] at h
    rw [schemasUnder]
    split at h
    · rename_i hListed
      rw [schemasUnder, if_pos hListed, foldItems_eq_map] at h
      rw [if_pos hListed]
      obtain ⟨item, hItem, rfl⟩ := List.mem_map.mp h
      exact ⟨item, hItem, rfl⟩
    · rename_i hListed
      rw [schemasUnder, if_neg hListed] at h
      cases h
  | _ => cases h

theorem exists_of_mem_schemas_foldMembers (h : w ∈ schemas (foldMembers members)) :
    ∃ inner ∈ schemas members, w = inner.foldAllOf := by
  obtain ⟨keyword, _, hMem, hSchema⟩ := mem_schemas_iff.mp h
  rw [foldMembers_eq_map] at hMem
  obtain ⟨⟨keyword, v⟩, hMember, hSame⟩ := List.mem_map.mp hMem
  cases hSame
  obtain ⟨inner, hInner, rfl⟩ := exists_of_mem_schemasUnder_fold hSchema
  exact ⟨inner, mem_schemas_iff.mpr ⟨keyword, v, hMember, hInner⟩, rfl⟩

theorem foldDepth_le_of_mem_values (h : w ∈ members.values) :
    w.foldDepth ≤ foldDepthOfNamed members := by
  induction members with
  | nil => cases h
  | cons member rest ih =>
    rw [foldDepthOfNamed]
    obtain rfl | h := List.mem_cons.mp h
    · exact Nat.le_max_left _ _
    · exact Nat.le_trans (ih h) (Nat.le_max_right _ _)

theorem foldDepth_le_of_mem_items {items : List Json} (h : w ∈ items) :
    w.foldDepth ≤ foldDepthOfItems items := by
  induction items with
  | nil => cases h
  | cons v rest ih =>
    rw [foldDepthOfItems]
    obtain rfl | h := List.mem_cons.mp h
    · exact Nat.le_max_left _ _
    · exact Nat.le_trans (ih h) (Nat.le_max_right _ _)

theorem foldDepth_le_of_mem_schemas (h : w ∈ schemas members) :
    w.foldDepth ≤ foldDepthOfMembers members := by
  induction members with
  | nil => cases h
  | cons member rest ih =>
    obtain ⟨keyword, v⟩ := member
    have hRest : w ∈ schemas rest → w.foldDepth ≤ foldDepthOfMembers ((keyword, v) :: rest) := by
      intro hRest
      refine Nat.le_trans (ih hRest) ?_
      cases v <;> simp only [foldDepthOfMembers, Nat.le_max_right, Nat.le_refl]
    obtain h | h := mem_schemas_cons_iff.mp h
    · cases v with
      | obj inner =>
        rw [schemasUnder] at h
        rw [foldDepthOfMembers]
        refine Nat.le_trans ?_ (Nat.le_max_left _ _)
        split
        · rename_i hNamed
          rw [if_pos hNamed] at h
          exact foldDepth_le_of_mem_values h
        · rename_i hNamed
          rw [if_neg hNamed] at h
          split
          · rename_i hSchema
            rw [if_pos hSchema, List.mem_singleton] at h
            exact Nat.le_of_eq (by rw [h, foldDepth])
          · rename_i hSchema
            rw [if_neg hSchema] at h
            cases h
      | arr items =>
        rw [schemasUnder] at h
        rw [foldDepthOfMembers]
        refine Nat.le_trans ?_ (Nat.le_max_left _ _)
        split
        · rename_i hListed
          rw [if_pos hListed] at h
          exact foldDepth_le_of_mem_items h
        · rename_i hListed
          rw [if_neg hListed] at h
          cases h
      | _ => cases h
    · exact hRest h

/-! ### The normal form -/

/-- Nothing is left to fold in the value, which goes at most so many fragments deep. -/
inductive Refined : Nat → Json → Prop
  | other {depth : Nat} {v : Json} (h : v.members? = none) : Refined depth v
  | fragment {depth : Nat} {members : Members} (hOwn : Unfoldable members)
      (hSchemas : ∀ w ∈ schemas members, Refined depth w) : Refined (depth + 1) (.obj members)

namespace Refined

variable {depth deeper : Nat}

theorem mono (h : Refined depth v) (hLe : depth ≤ deeper) : Refined deeper v := by
  induction h generalizing deeper with
  | other hOther => exact .other hOther
  | fragment hOwn _ ih =>
    obtain ⟨room, rfl⟩ := Nat.exists_eq_add_of_le' hLe
    refine .fragment hOwn fun w hMem => ih w hMem ?_
    exact Nat.le_add_left _ _

theorem settled (h : Refined depth v) : v.Settled depth := by
  induction h with
  | @other depth v hOther =>
    cases v with
    | obj members => cases hOther
    | _ => exact ⟨rfl, Nat.zero_le _⟩
  | @fragment depth members hOwn _ ih =>
    obtain ⟨hSame, hDepth⟩ := foldMembers_of_settled fun keyword v hMem =>
      settledUnder_of_schemas fun w hSchema => ih w (mem_schemas_iff.mpr ⟨_, _, hMem, hSchema⟩)
    constructor
    · rw [foldAllOf, hSame, foldOwn, show foldableBranches? _ = none from hOwn]
    · rw [foldDepth]
      exact Nat.succ_le_succ hDepth

/-- What is known of a fragment in normal form, as far as it does not depend on its depth. -/
theorem of_obj (h : Refined depth (.obj members)) :
    Unfoldable members ∧ ∀ w ∈ schemas members, Refined depth w := by
  cases h with
  | other hOther => cases hOther
  | fragment hOwn hSchemas => exact ⟨hOwn, fun w hMem => (hSchemas w hMem).mono (Nat.le_succ _)⟩

end Refined

end Json

/-! ### Absorbing stays in the normal form -/

namespace Fragment

open Json (Refined)

mutual

theorem refined_schemas_absorb {depth : Nat} (target source : Members)
    (hTarget : ∀ w ∈ schemas target, Refined depth w)
    (hSource : ∀ w ∈ schemas source, Refined depth w) :
    ∀ w ∈ schemas (absorb target source), Refined depth w := by
  suffices hMembers : ∀ keyword v, (keyword, v) ∈ absorb target source →
      ∀ w ∈ schemasUnder keyword v, Refined depth w by
    intro w hMem
    obtain ⟨keyword, v, hMember, hSchema⟩ := mem_schemas_iff.mp hMem
    exact hMembers keyword v hMember w hSchema
  rw [absorb_eq]
  apply Members.forall_mem_mergeWith
  · intro keyword present added hAdded hPresent
    unfold combined
    split
    · rename_i named
      split
      · rename_i hProperty
        have hNamed := namedSchema_of_property keyword (List.contains_iff_mem.mp hProperty)
        rw [schemasUnder_named hNamed]
        apply refined_values_absorbNamed _ named
        · cases present with
          | obj already => rwa [schemasUnder_named hNamed] at hPresent
          | _ => exact List.forall_mem_nil _
        · intro w hMem
          refine hSource w (mem_schemas_iff.mpr ⟨keyword, _, hAdded, ?_⟩)
          rwa [schemasUnder_named hNamed]
      · exact hPresent
    · split
      · rename_i hRequired
        rw [eq_of_beq hRequired, schemasUnder_eq_nil (by decide) (by decide) (by decide)]
        exact List.forall_mem_nil _
      · exact hPresent
    · exact hPresent
  · exact fun keyword v hMem w hSchema =>
      hTarget w (mem_schemas_iff.mpr ⟨keyword, v, hMem, hSchema⟩)
  · exact fun keyword v hMem w hSchema =>
      hSource w (mem_schemas_iff.mpr ⟨keyword, v, hMem, hSchema⟩)
termination_by sizeOf source
decreasing_by
  have hLt := List.sizeOf_lt_of_mem hAdded
  simp only [Prod.mk.sizeOf_spec, Json.obj.sizeOf_spec] at hLt
  omega

theorem refined_values_absorbNamed {depth : Nat} (target named : Members)
    (hTarget : ∀ w ∈ target.values, Refined depth w)
    (hNamed : ∀ w ∈ named.values, Refined depth w) :
    ∀ w ∈ (absorbNamed target named).values, Refined depth w := by
  refine forall_values_absorbNamed ?_ hTarget hNamed
  intro name present added hAdded hPresent
  unfold combinedEntry
  split
  · rename_i fragment other
    -- Both fragments are refined, so what is left of their `allOf` cannot be folded in the result.
    have hOther : Refined depth (.obj other) := hNamed _ (List.mem_map_of_mem hAdded)
    cases hPresent with
    | other hNone => cases hNone
    | @fragment depth _ hOwn hSchemas =>
      cases hOther with
      | other hNone => cases hNone
      | fragment hOtherOwn hOtherSchemas =>
        refine .fragment (unfoldable_absorb hOwn hOtherOwn) ?_
        exact refined_schemas_absorb fragment other hSchemas hOtherSchemas
  · exact hPresent
termination_by sizeOf named
decreasing_by
  have hLt := List.sizeOf_lt_of_mem hAdded
  simp only [Prod.mk.sizeOf_spec, Json.obj.sizeOf_spec] at hLt
  omega

end

theorem refined_foldOwn {depth : Nat} {fragment : Members}
    (h : ∀ w ∈ schemas fragment, Refined depth w) :
    Refined (depth + 1) (.obj (foldOwn fragment)) := by
  suffices hBoth : Unfoldable (foldOwn fragment) ∧
      ∀ w ∈ schemas (foldOwn fragment), Refined depth w from .fragment hBoth.1 hBoth.2
  apply foldOwn_of_steps (motive := fun target =>
    Unfoldable target ∧ ∀ w ∈ schemas target, Refined depth w)
  · exact fun hUnfoldable => ⟨hUnfoldable, h⟩
  · exact ⟨unfoldable_erase fragment, fun w hMem => h w (mem_schemas_of_erase hMem)⟩
  · rintro target branch ⟨hTarget, hSchemas⟩ hBranch -
    obtain ⟨hOwn, hBranchSchemas⟩ := (h _ (mem_schemas_of_contains hBranch)).of_obj
    exact ⟨unfoldable_absorb hTarget hOwn,
      refined_schemas_absorb target branch hSchemas hBranchSchemas⟩

theorem refined_folded (fragment : Members) :
    Refined (Json.obj fragment).foldDepth (.obj (folded fragment)) := by
  rw [Json.foldDepth]
  apply refined_foldOwn
  intro w hMem
  obtain ⟨v, hSchema, rfl⟩ := Json.exists_of_mem_schemas_foldMembers hMem
  have hDepth := Json.foldDepth_le_of_mem_schemas hSchema
  cases v with
  | obj inner =>
    rw [foldAllOf_obj]
    exact (refined_folded inner).mono hDepth
  | _ => exact .other rfl
termination_by sizeOf fragment
decreasing_by
  have hLt := sizeOf_lt_of_mem_schemas hSchema
  simp only [Json.obj.sizeOf_spec] at hLt
  omega

end Fragment

namespace Json

theorem refined_foldAllOf (v : Json) : Refined v.foldDepth v.foldAllOf := by
  cases v with
  | obj fragment =>
    rw [Fragment.foldAllOf_obj]
    exact Fragment.refined_folded fragment
  | _ => exact .other rfl

/-- Folding a second time changes nothing, and if a value does not nest too deeply to be folded then
neither does the folded one. -/
theorem foldAllOf_foldAllOf (v : Json) :
    v.foldAllOf.foldAllOf = v.foldAllOf ∧ (v.foldAllOf? >>= foldAllOf?) = v.foldAllOf? := by
  obtain ⟨hSame, hDepth⟩ := (refined_foldAllOf v).settled
  refine ⟨hSame, ?_⟩
  by_cases hNesting : v.foldDepth ≤ nestingLimit
  · have hFold : v.foldAllOf? = .ok v.foldAllOf := if_pos hNesting
    have hAgain : v.foldAllOf.foldAllOf? = .ok v.foldAllOf.foldAllOf :=
      if_pos (Nat.le_trans hDepth hNesting)
    rw [hFold]
    exact hAgain.trans (congrArg _ hSame)
  · have hFold : v.foldAllOf? = .error .tooDeep := if_neg hNesting
    rw [hFold]
    rfl

end Json

end SchemaOutline
