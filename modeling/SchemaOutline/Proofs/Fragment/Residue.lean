import SchemaOutline.Proofs.Fragment.Folded

/-!
# What is left of `allOf` in the branches

A branch that can be folded may have an `allOf` of its own that cannot be, because it holds
references. All such leftovers come to stand under one keyword of the folded fragment, and the first
of them prevails there (`get?_allOf_folded`): it is taken over whole, and the references in the
later ones are lost (`folded_forkedReferences`).
-/

set_option autoImplicit false

namespace SchemaOutline

namespace Fragment

variable {fragment target : Members} {branches : List Members} {keyword : String}

/-- Of several fragments that are absorbed in turn, the first that has a keyword decides on its
value, unless the values are united. -/
theorem get?_foldl_absorb_of_other (hProperty : keyword ∉ propertyKeywords)
    (hRequired : keyword ≠ "required") :
    (branches.foldl absorb target).get? keyword =
      (target :: branches).findSome? fun fragment => fragment.get? keyword := by
  induction branches generalizing target with
  | nil =>
    rw [List.foldl_nil, List.findSome?_cons, List.findSome?_nil]
    cases target.get? keyword <;> rfl
  | cons branch rest ih =>
    rw [List.foldl_cons, ih, List.findSome?_cons, List.findSome?_cons, List.findSome?_cons,
      get?_absorb_of_other target branch hProperty hRequired]
    cases target.get? keyword <;> rfl

/-- The `allOf` that a folded fragment has is that of the first branch which still has one after it
has been folded itself. The references and whatever else is in it are all kept then. -/
theorem get?_allOf_folded (hAllOf : fragment.get "allOf" = .arr (branches.map .obj))
    (hSome : branches ≠ []) (hRefs : ∀ branch ∈ branches, branch.has "$ref" = false) :
    (Json.obj fragment).foldAllOf = .obj (folded fragment) ∧
      (folded fragment).get? "allOf" =
        branches.findSome? (fun branch => (folded branch).get? "allOf") ∧
      ∀ before branch after residue, branches = before ++ branch :: after →
        (∀ earlier ∈ before, (folded earlier).has "allOf" = false) →
        (folded branch).get "allOf" = .arr residue →
          (folded fragment).get "allOf" = .arr residue := by
  have hBranches : foldableBranches? (fragment.get "allOf") = some branches :=
    foldableBranches?_eq_some_iff.mpr ⟨hAllOf, hSome, hRefs⟩
  have hErased : (Members.erase (Json.foldMembers fragment) "allOf").get? "allOf" = none := by
    rw [Members.get?_erase, if_pos rfl]
  have hFirst : (folded fragment).get? "allOf" =
      branches.findSome? fun branch => (folded branch).get? "allOf" := by
    rw [folded_eq_foldl hBranches, get?_foldl_absorb_of_other (by decide) (by decide),
      List.findSome?_cons, hErased, List.findSome?_map]
    rfl
  refine ⟨foldAllOf_obj fragment, hFirst, ?_⟩
  rintro before branch after residue rfl hEarlier hResidue
  have hNone : (before.findSome? fun branch => (folded branch).get? "allOf") = none := by
    rw [List.findSome?_eq_none_iff]
    intro earlier hMem
    exact Option.not_isSome_iff_eq_none.mp (Bool.eq_false_iff.mp (hEarlier earlier hMem))
  rw [Members.get, hFirst, List.findSome?_append, hNone, Option.none_or, List.findSome?_cons,
    Members.get?_of_get_eq_arr hResidue]
  rfl

/-- A fragment with an `allOf` that cannot be folded. -/
def referring (target : String) : Members := [("allOf", .arr [.obj [("$ref", .str target)]])]

/-- A branch without an `allOf`, one that has an `allOf` left two levels down, and one more. -/
def lateReference : List Members :=
  [[("allOf", .arr [.obj [("type", .str "object")]])], [("allOf", .arr [.obj (referring "#/a")])],
    [("minProperties", .int 1)]]

theorem get?_allOf_folded_lateReference :
    (∀ branch ∈ lateReference, branch.has "$ref" = false) ∧
      (folded [("title", .str "t"), ("allOf", .arr (lateReference.map .obj))]).get "allOf" =
        .arr [.obj [("$ref", .str "#/a")]] := by
  have hRefs : ∀ branch ∈ lateReference, branch.has "$ref" = false := by decide +kernel
  have hAllOf : Members.get [("title", .str "t"), ("allOf", .arr (lateReference.map .obj))]
      "allOf" = .arr (lateReference.map .obj) := rfl
  obtain ⟨-, -, hKept⟩ := get?_allOf_folded hAllOf (by simp [lateReference]) hRefs
  refine ⟨hRefs, hKept (lateReference.take 1) [("allOf", .arr [.obj (referring "#/a")])]
    (lateReference.drop 2) _ rfl ?_ ?_⟩ <;>
    decide +kernel

def forkedReferences : Members :=
  [("allOf", .arr [.obj (referring "#/a"), .obj (referring "#/b")])]

/-- Both branches can be folded and both have an `allOf` left, but only the first one stays. -/
theorem folded_forkedReferences :
    foldableBranches? (forkedReferences.get "allOf") = some [referring "#/a", referring "#/b"] ∧
      (folded (referring "#/b")).get "allOf" = .arr [.obj [("$ref", .str "#/b")]] ∧
      (folded forkedReferences).get "allOf" = .arr [.obj [("$ref", .str "#/a")]] ∧
      .obj [("$ref", .str "#/b")] ∉ ((folded forkedReferences).get "allOf").items?.getD [] := by
  decide +kernel

end Fragment

end SchemaOutline
