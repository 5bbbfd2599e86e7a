import SchemaOutline.Proofs.Fragment.Folded
import SchemaOutline.Proofs.Fragment.Rearranging

/-!
# Folding with keywords in another order

Absorbing goes through the keywords of a branch one after the other and appends what is new, so that
the order of keywords shows in the result, but only there: the results are rearranged into each
other again (`absorb_matches`, `Json.Rearranged.foldAllOf`), and both are too deep to be folded or
neither is (`Json.Rearranged.foldAllOf?`).
-/

set_option autoImplicit false

namespace SchemaOutline

open Json Fragment

/-! ### Maps of named schemas -/

namespace Members

variable {xs ys target other source again : Members} {v w : Json}

theorem Aligned.get? (h : xs.Aligned ys) (name : String) :
    Option.Rel (Rearranged .schema) (xs.get? name) (ys.get? name) := by
  induction h with
  | nil => exact .none
  | cons hFirst _ ih =>
    rw [get?_cons, get?_cons, ← hFirst.1]
    split
    · exact .some hFirst.2
    · exact ih

theorem Aligned.set (h : xs.Aligned ys) (hValue : Rearranged .schema v w) (name : String) :
    (xs.set name v).Aligned (ys.set name w) := by
  induction h with
  | nil => exact .cons ⟨rfl, hValue⟩ .nil
  | @cons x y rest others hFirst hRest ih =>
    obtain ⟨other, x⟩ := x
    obtain ⟨_, y⟩ := y
    obtain ⟨rfl, hFirst⟩ := hFirst
    rw [Members.set, Members.set]
    split
    · exact .cons ⟨rfl, hValue⟩ hRest
    · exact .cons ⟨rfl, hFirst⟩ ih

/-- Entering aligned maps in aligned maps one by one leaves them aligned, if combining two values
does not look at the order of keywords. -/
theorem Aligned.mergeWith {combine : Json → Json → Json} (hTarget : target.Aligned other)
    (hSource : source.Aligned again)
    (hCombine : ∀ name present present' added added', (name, added) ∈ source →
      (name, added') ∈ again → Rearranged .schema present present' →
      Rearranged .schema added added' →
      Rearranged .schema (combine present added) (combine present' added')) :
    (Members.mergeWith (fun _ => combine) target source).Aligned
      (Members.mergeWith (fun _ => combine) other again) := by
  induction hSource generalizing target other with
  | nil => exact hTarget
  | @cons x y rest others hFirst _ ih =>
    obtain ⟨name, added⟩ := x
    obtain ⟨_, added'⟩ := y
    obtain ⟨rfl, hAdded⟩ := hFirst
    have hEntered : Rearranged .schema ((target.get? name).elim added (combine · added))
        ((other.get? name).elim added' (combine · added')) := by
      obtain ⟨hNone, hNone'⟩ | ⟨present, present', hSome, hSome', hPresent⟩ :=
        rel_cases (hTarget.get? name)
      · rw [hNone, hNone']
        exact hAdded
      · rw [hSome, hSome']
        exact hCombine name present present' added added' List.mem_cons_self List.mem_cons_self
          hPresent hAdded
    rw [Members.mergeWith, Members.mergeWith]
    apply ih (hTarget.set hEntered name)
    intro name present present' added added' hMem hMem'
    exact hCombine name present present' added added' (List.mem_cons_of_mem _ hMem)
      (List.mem_cons_of_mem _ hMem')

end Members

/-! ### Absorbing -/

namespace Fragment

theorem combinedEntry_eq (present added : Json) :
    combinedEntry present added =
      ((present.members?.bind fun fragment =>
        added.members?.map fun other => .obj (absorb fragment other)).getD present) := by
  cases present <;> cases added <;> rfl

theorem placeUnder_property {keyword : String} (hKeyword : keyword ∈ propertyKeywords) :
    placeUnder keyword = .named := by
  have hNamed : ∀ keyword ∈ propertyKeywords, placeUnder keyword = .named := by decide
  exact hNamed keyword hKeyword

mutual

/-- Absorbing a branch comes to the same under every keyword, in whatever order the keywords are
gone through. -/
theorem absorb_matches {target other source again : Members} (hTarget : target.Matches other)
    (hSource : source.Matches again) (hNames : (Json.obj source).NoDuplicates)
    (hOther : (Json.obj again).NoDuplicates) :
    (absorb target source).Matches (absorb other again) := by
  intro keyword
  rw [get?_absorb hNames.names, get?_absorb hOther.names]
  obtain ⟨hNone, hNone'⟩ | ⟨added, added', hAdded, hAdded', hRel⟩ := rel_cases (hSource keyword)
  · rw [hNone, hNone', Option.merge_none_right, Option.merge_none_right]
    exact hTarget keyword
  obtain ⟨hNone, hNone'⟩ | ⟨present, present', hPresent, hPresent', hRelPresent⟩ :=
    rel_cases (hTarget keyword)
  · rw [hNone, hNone', Option.merge_none_left, Option.merge_none_left]
    exact hSource keyword
  rw [hAdded, hAdded', hPresent, hPresent', Option.merge_some_some, Option.merge_some_some]
  apply Option.Rel.some
  by_cases hProperty : keyword ∈ propertyKeywords
  · rw [combined_property hProperty, combined_property hProperty]
    rw [placeUnder_property hProperty] at hRel hRelPresent ⊢
    obtain ⟨hNone, hNone'⟩ | ⟨named, named', hNamed, hNamed', hAligned⟩ := rel_cases hRel.named?
    · rw [hNone, hNone']
      exact hRelPresent
    · rw [hNamed, hNamed']
      obtain rfl := members?_eq_some_iff.mp hNamed
      obtain rfl := members?_eq_some_iff.mp hNamed'
      have hLt := Members.sizeOf_lt_of_get? hAdded
      exact .of_aligned (absorbNamed_aligned (rel_getD hRelPresent.named? .nil) hAligned
        (hNames.get? hAdded) (hOther.get? hAdded'))
  · by_cases hRequired : keyword = "required"
    · subst hRequired
      rw [placeUnder_plain _ (by decide)] at hRel hRelPresent ⊢
      rw [hRel.eq_of_plain, hRelPresent.eq_of_plain]
      exact .same _
    · rw [combined_of_other hProperty hRequired, combined_of_other hProperty hRequired]
      exact hRelPresent
termination_by sizeOf source
decreasing_by
  simp only [Json.obj.sizeOf_spec] at hLt
  omega

theorem absorbNamed_aligned {target other named again : Members} (hTarget : target.Aligned other)
    (hSource : named.Aligned again) (hNames : (Json.obj named).NoDuplicates)
    (hOther : (Json.obj again).NoDuplicates) :
    (absorbNamed target named).Aligned (absorbNamed other again) := by
  rw [absorbNamed_eq, absorbNamed_eq]
  apply hTarget.mergeWith hSource
  intro name present present' added added' hMem hMem' hPresent hAdded
  rw [combinedEntry_eq, combinedEntry_eq]
  obtain ⟨hNone, hNone'⟩ | ⟨own, own', hOwn, hOwn', hOwnMatches⟩ := rel_cases hPresent.members?
  · rw [hNone, hNone']
    exact hPresent
  obtain ⟨hNone, hNone'⟩ | ⟨branch, branch', hBranch, hBranch', hMatches⟩ :=
    rel_cases hAdded.members?
  · rw [hOwn, hOwn', hNone, hNone']
    exact hPresent
  rw [hOwn, hOwn', hBranch, hBranch']
  obtain rfl := members?_eq_some_iff.mp hBranch
  obtain rfl := members?_eq_some_iff.mp hBranch'
  have hLt := List.sizeOf_lt_of_mem hMem
  exact .of_matches (absorb_matches hOwnMatches hMatches
    (hNames.of_mem_values (List.mem_map_of_mem hMem))
    (hOther.of_mem_values (List.mem_map_of_mem hMem')))
termination_by sizeOf named
decreasing_by
  simp only [Prod.mk.sizeOf_spec, Json.obj.sizeOf_spec] at hLt
  omega

end

/-! ### Folding -/

theorem mapM_rel {α β γ δ : Type} {R : α → β → Prop} {S : γ → δ → Prop} {f : α → Option γ}
    {g : β → Option δ} {xs : List α} {ys : List β} (h : List.Forall₂ R xs ys)
    (hStep : ∀ x y, R x y → Option.Rel S (f x) (g y)) :
    Option.Rel (List.Forall₂ S) (xs.mapM f) (ys.mapM g) := by
  induction h with
  | nil => exact .some .nil
  | @cons x y rest others hFirst _ ih =>
    rw [List.mapM_cons, List.mapM_cons]
    refine rel_bind (hStep x y hFirst) fun a b hRel => ?_
    exact rel_bind ih fun as bs hRels => .some (.cons hRel hRels)

variable {first second : Members}

theorem foldableBranch?_rel {v w : Json} (h : Rearranged .schema v w) :
    Option.Rel Members.Matches (foldableBranch? v) (foldableBranch? w) := by
  refine rel_bind h.members? fun branch other hMatches => ?_
  rw [hMatches.has_eq]
  split
  · exact .none
  · exact .some hMatches

theorem foldableBranches?_eq (v : Json) :
    foldableBranches? v =
      v.items?.bind fun items => if items.isEmpty then none else items.mapM foldableBranch? := by
  unfold foldableBranches?
  split
  · rfl
  · rename_i items hItems
    cases items with
    | nil => exact absurd rfl hItems
    | cons item rest => rfl
  · rename_i hItems
    cases v with
    | arr items => exact absurd rfl (hItems items)
    | _ => rfl

theorem foldableBranches?_rel (h : first.Matches second) :
    Option.Rel (List.Forall₂ Members.Matches) (foldableBranches? (first.get "allOf"))
      (foldableBranches? (second.get "allOf")) := by
  rw [foldableBranches?_eq, foldableBranches?_eq]
  refine rel_bind ((h.get "allOf").items? (by decide)) fun items others hItems => ?_
  cases hItems with
  | nil => exact .none
  | cons hItem hRest => exact mapM_rel (.cons hItem hRest) fun _ _ => foldableBranch?_rel

theorem foldl_absorb_matches {branches others : List Members} (hStart : first.Matches second)
    (h : List.Forall₂ Members.Matches branches others)
    (hNames : ∀ branch ∈ branches, (Json.obj branch).NoDuplicates)
    (hOthers : ∀ branch ∈ others, (Json.obj branch).NoDuplicates) :
    (branches.foldl absorb first).Matches (others.foldl absorb second) := by
  induction h generalizing first second with
  | nil => exact hStart
  | cons hFirst _ ih =>
    obtain ⟨hName, hNames⟩ := List.forall_mem_cons.mp hNames
    obtain ⟨hOther, hOthers⟩ := List.forall_mem_cons.mp hOthers
    exact ih (absorb_matches hStart hFirst hName hOther) hNames hOthers

theorem foldOwn_matches (h : first.Matches second) (hFirst : (Json.obj first).NoDuplicates)
    (hSecond : (Json.obj second).NoDuplicates) : (foldOwn first).Matches (foldOwn second) := by
  unfold foldOwn
  obtain ⟨hNone, hNone'⟩ | ⟨branches, others, hBranches, hOthers, hMatches⟩ :=
    rel_cases (foldableBranches?_rel h)
  · rw [hNone, hNone']
    exact h
  · rw [hBranches, hOthers]
    exact foldl_absorb_matches (h.erase "allOf") hMatches
      (noDuplicates_of_foldable hFirst hBranches) (noDuplicates_of_foldable hSecond hOthers)

end Fragment

namespace Json

theorem Rearranged.matches {first second : Members}
    (h : Rearranged .schema (.obj first) (.obj second)) : first.Matches second := by
  obtain ⟨hMatches⟩ := h.members?
  exact hMatches

theorem foldMembers_matches {first second : Members} (h : first.Matches second)
    (hUnder : ∀ keyword v w, first.get? keyword = some v → second.get? keyword = some w →
      Rearranged (placeUnder keyword) (foldUnder keyword v) (foldUnder keyword w)) :
    Members.Matches (foldMembers first) (foldMembers second) := by
  intro keyword
  rw [get?_foldMembers, get?_foldMembers]
  obtain ⟨hNone, hNone'⟩ | ⟨v, w, hFirst, hSecond, -⟩ := rel_cases (h keyword)
  · rw [hNone, hNone']
    exact .none
  · rw [hFirst, hSecond]
    exact .some (hUnder keyword v w hFirst hSecond)

/-- Folding does not take a map of named schemas for one schema. -/
theorem not_contains_schemaKeywords {keyword : String} (h : placeUnder keyword = .named) :
    ¬ schemaKeywords.contains keyword = true := by
  have hSchema : ∀ keyword ∈ schemaKeywords, placeUnder keyword = .schema := by decide
  intro hKeyword
  rw [hSchema keyword (List.contains_iff_mem.mp hKeyword)] at h
  cases h

/-- Folding does not take one schema for a map of named schemas. -/
theorem not_contains_namedSchemaKeywords {keyword : String} (h : placeUnder keyword = .schema) :
    ¬ Fragment.namedSchemaKeywords.contains keyword = true := by
  have hNamed : ∀ keyword ∈ Fragment.namedSchemaKeywords, placeUnder keyword = .named := by decide
  intro hKeyword
  rw [hNamed keyword (List.contains_iff_mem.mp hKeyword)] at h
  cases h

theorem Rearranged.folded {place : Place} {v w : Json} (h : Rearranged place v w)
    (hFirst : v.NoDuplicates) (hSecond : w.NoDuplicates) :
    (place = .schema → Rearranged .schema v.foldAllOf w.foldAllOf) ∧
      ∀ keyword, placeUnder keyword = place →
        Rearranged place (foldUnder keyword v) (foldUnder keyword w) := by
  induction h with
  | same v => exact ⟨fun _ => .same _, fun _ _ => .same _⟩
  | @items place xs ys hPlace hLength hItems ih =>
    refine ⟨fun _ => .items (by decide) hLength hItems, ?_⟩
    intro keyword _
    rw [foldUnder, foldUnder]
    split
    · rw [foldItems_eq_map, foldItems_eq_map]
      apply Rearranged.of_forall₂ hPlace
      rw [List.forall₂_map_left_iff, List.forall₂_map_right_iff, forall₂_iff_getElem?]
      refine ⟨hLength, fun i v w hLeft hRight => ?_⟩
      exact (ih i v w hLeft hRight (hFirst.of_mem_items (List.mem_of_getElem? hLeft))
        (hSecond.of_mem_items (List.mem_of_getElem? hRight))).1 rfl
    · exact .items hPlace hLength hItems
  | @named xs ys hNames hValues ih =>
    refine ⟨fun hPlace => absurd hPlace (by decide), ?_⟩
    intro keyword hKeyword
    rw [foldUnder, foldUnder]
    split
    · apply Rearranged.of_aligned
      rw [Members.aligned_iff, names_foldNamed, names_foldNamed, values_foldNamed,
        values_foldNamed, List.forall₂_map_left_iff, List.forall₂_map_right_iff,
        forall₂_iff_getElem?]
      refine ⟨hNames, Members.length_values_eq hNames, fun i v w hLeft hRight => ?_⟩
      exact (ih i v w hLeft hRight (hFirst.of_mem_values (List.mem_of_getElem? hLeft))
        (hSecond.of_mem_values (List.mem_of_getElem? hRight))).1 rfl
    · have hOther := not_contains_schemaKeywords hKeyword
      rw [if_neg hOther, if_neg hOther]
      exact .named hNames hValues
  | @fragment first second hKeywords hValues ih =>
    have hWhole : Rearranged .schema (.obj first) (.obj second) := .fragment hKeywords hValues
    have hMembers : Members.Matches (foldMembers first) (foldMembers second) :=
      foldMembers_matches hWhole.matches fun keyword v w hLeft hRight =>
        (ih keyword v w hLeft hRight (hFirst.get? hLeft) (hSecond.get? hRight)).2 keyword rfl
    have hFolded : Rearranged .schema (foldAllOf (.obj first)) (foldAllOf (.obj second)) := by
      rw [foldAllOf, foldAllOf]
      exact .of_matches (foldOwn_matches hMembers (noDuplicates_foldMembers first hFirst)
        (noDuplicates_foldMembers second hSecond))
    refine ⟨fun _ => hFolded, ?_⟩
    intro keyword hKeyword
    have hOther := not_contains_namedSchemaKeywords hKeyword
    rw [foldUnder, foldUnder, if_neg hOther, if_neg hOther]
    split
    · exact hFolded
    · exact hWhole

/-- Folding does not look at the order of keywords. -/
theorem Rearranged.foldAllOf {v w : Json} (h : Rearranged .schema v w) (hFirst : v.NoDuplicates)
    (hSecond : w.NoDuplicates) : Rearranged .schema v.foldAllOf w.foldAllOf :=
  (h.folded hFirst hSecond).1 rfl

/-! ### Nesting -/

theorem foldDepthOfNamed_le_iff {members : Members} {n : Nat} :
    foldDepthOfNamed members ≤ n ↔ ∀ v ∈ members.values, v.foldDepth ≤ n := by
  induction members with
  | nil => simp [foldDepthOfNamed, Members.values]
  | cons member rest ih =>
    simp only [foldDepthOfNamed, Nat.max_le, ih, Members.values, List.map_cons,
      List.forall_mem_cons]

theorem foldDepthOfItems_le_iff {items : List Json} {n : Nat} :
    foldDepthOfItems items ≤ n ↔ ∀ v ∈ items, v.foldDepth ≤ n := by
  induction items with
  | nil => simp [foldDepthOfItems]
  | cons v rest ih => rw [foldDepthOfItems, Nat.max_le, ih, List.forall_mem_cons]

/-- How deep folding goes into the value under a keyword of a fragment. -/
def foldDepthUnder (keyword : String) : Json → Nat
  | .obj inner =>
    if Fragment.namedSchemaKeywords.contains keyword then foldDepthOfNamed inner
    else if schemaKeywords.contains keyword then (obj inner).foldDepth
    else 0
  | .arr items =>
    if schemaListKeywords.contains keyword || schemaKeywords.contains keyword then
      foldDepthOfItems items
    else 0
  | _ => 0

theorem foldDepthOfMembers_le_iff {members : Members} {n : Nat} :
    foldDepthOfMembers members ≤ n ↔
      ∀ keyword v, (keyword, v) ∈ members → foldDepthUnder keyword v ≤ n := by
  induction members with
  | nil => simp [foldDepthOfMembers]
  | cons member rest ih =>
    obtain ⟨keyword, v⟩ := member
    have hCons : foldDepthOfMembers ((keyword, v) :: rest) =
        max (foldDepthUnder keyword v) (foldDepthOfMembers rest) := by
      cases v <;> simp [foldDepthOfMembers, foldDepthUnder, foldDepth]
    rw [hCons, Nat.max_le, ih]
    constructor
    · rintro ⟨hFirst, hRest⟩ name w hMem
      rcases List.mem_cons.mp hMem with hSame | hMem
      · cases hSame
        exact hFirst
      · exact hRest name w hMem
    · intro h
      exact ⟨h keyword v List.mem_cons_self, fun name w hMem =>
        h name w (List.mem_cons_of_mem _ hMem)⟩

theorem Rearranged.foldDepth_le {place : Place} {v w : Json} (h : Rearranged place v w)
    (hSecond : w.NoDuplicates) :
    (place = .schema → w.foldDepth ≤ v.foldDepth) ∧
      ∀ keyword, placeUnder keyword = place →
        foldDepthUnder keyword w ≤ foldDepthUnder keyword v := by
  induction h with
  | same v => exact ⟨fun _ => Nat.le_refl _, fun _ _ => Nat.le_refl _⟩
  | @items place xs ys _ hLength _ ih =>
    refine ⟨fun _ => Nat.le_refl _, ?_⟩
    intro keyword _
    rw [foldDepthUnder, foldDepthUnder]
    split
    · rw [foldDepthOfItems_le_iff]
      intro w hMem
      obtain ⟨i, v, hLeft, hRight⟩ := exists_getElem? hLength hMem
      exact Nat.le_trans ((ih i v w hLeft hRight (hSecond.of_mem_items hMem)).1 rfl)
        (foldDepthOfItems_le_iff.mp (Nat.le_refl _) v (List.mem_of_getElem? hLeft))
    · exact Nat.le_refl _
  | @named xs ys hNames _ ih =>
    refine ⟨fun hPlace => absurd hPlace (by decide), ?_⟩
    intro keyword hKeyword
    rw [foldDepthUnder, foldDepthUnder]
    split
    · rw [foldDepthOfNamed_le_iff]
      intro w hMem
      obtain ⟨i, v, hLeft, hRight⟩ := exists_getElem? (Members.length_values_eq hNames) hMem
      exact Nat.le_trans ((ih i v w hLeft hRight (hSecond.of_mem_values hMem)).1 rfl)
        (foldDepthOfNamed_le_iff.mp (Nat.le_refl _) v (List.mem_of_getElem? hLeft))
    · rw [if_neg (not_contains_schemaKeywords hKeyword)]
      exact Nat.zero_le _
  | @fragment first second hKeywords _ ih =>
    have hDepth : (obj second).foldDepth ≤ (obj first).foldDepth := by
      rw [foldDepth, foldDepth, Nat.add_le_add_iff_right, foldDepthOfMembers_le_iff]
      intro keyword w hMem
      obtain ⟨v, hLeft, hRight⟩ := Members.exists_get?_of_mem hKeywords hSecond hMem
      exact Nat.le_trans ((ih keyword v w hLeft hRight (hSecond.get? hRight)).2 keyword rfl)
        (foldDepthOfMembers_le_iff.mp (Nat.le_refl _) keyword v (Members.mem_of_get? hLeft))
    refine ⟨fun _ => hDepth, ?_⟩
    intro keyword hKeyword
    have hOther := not_contains_namedSchemaKeywords hKeyword
    rw [foldDepthUnder, foldDepthUnder, if_neg hOther, if_neg hOther]
    split
    · exact hDepth
    · exact Nat.le_refl _

/-- Rearranged documents are both folded, into documents that are rearranged into each other again,
or both nest too deeply. -/
theorem Rearranged.foldAllOf? {v w : Json} (h : Rearranged .schema v w) (hFirst : v.NoDuplicates)
    (hSecond : w.NoDuplicates) :
    (∃ folded other, v.foldAllOf? = .ok folded ∧ w.foldAllOf? = .ok other ∧
      Rearranged .schema folded other) ∨
    v.foldAllOf? = .error .tooDeep ∧ w.foldAllOf? = .error .tooDeep := by
  have hDepth : v.foldDepth = w.foldDepth :=
    Nat.le_antisymm ((h.symm.foldDepth_le hFirst).1 rfl) ((h.foldDepth_le hSecond).1 rfl)
  unfold Json.foldAllOf?
  rw [hDepth]
  split
  · exact .inl ⟨_, _, rfl, rfl, h.foldAllOf hFirst hSecond⟩
  · exact .inr ⟨rfl, rfl⟩

end Json

end SchemaOutline
