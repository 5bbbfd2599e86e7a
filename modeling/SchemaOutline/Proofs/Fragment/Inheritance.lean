import SchemaOutline.Proofs.Json.Lookup

/-!
# Branches with an inherited type

A branch that takes the type of the combiner around it differs from what is written in the document
under no name but `type`, and it is a fragment exactly if the written value is one.
-/

set_option autoImplicit false

namespace SchemaOutline

namespace Json

variable {v inherited : Json} {fragment shown : Members}

theorem inheriting_of_members?_eq_none (h : v.members? = none) (inherited : Json) :
    v.inheriting inherited = v := by
  simp [inheriting, inheriting?, h]

theorem inheriting_obj (fragment : Members) (inherited : Json) :
    (obj fragment).inheriting inherited = .obj fragment ∨
      (obj fragment).inheriting inherited = .obj (fragment.set "type" inherited) := by
  simp only [inheriting, inheriting?, members?, Option.bind_some, Fragment.withInherited?]
  split
  · exact .inl rfl
  · exact .inr rfl

theorem inheriting_of_takes (hInherited : inherited ≠ .null)
    (hType : (fragment.get "type").isTruthy = false)
    (hReference : Fragment.isReference fragment = false) :
    (obj fragment).inheriting inherited = .obj (fragment.set "type" inherited) := by
  simp [inheriting, inheriting?, members?, Fragment.withInherited?, hInherited, hType, hReference]

theorem inheriting_of_declines
    (h : (fragment.get "type").isTruthy = true ∨ Fragment.isReference fragment = true)
    (inherited : Json) : (obj fragment).inheriting inherited = .obj fragment := by
  have hNone : Fragment.withInherited? fragment inherited = none := by
    unfold Fragment.withInherited?
    rw [if_pos]
    obtain h | h := h <;> simp [h]
  simp [inheriting, inheriting?, members?, hNone]

@[simp] theorem inheriting_null (v : Json) : v.inheriting .null = v := by
  cases v with
  | obj fragment =>
    simp [inheriting, inheriting?, members?, Fragment.withInherited?]
  | _ => rfl

theorem isSome_members?_inheriting (v inherited : Json) :
    (v.inheriting inherited).members?.isSome = v.members?.isSome := by
  cases hMembers : v.members? with
  | none => rw [inheriting_of_members?_eq_none hMembers, hMembers]
  | some fragment =>
    obtain rfl := members?_eq_some_iff.mp hMembers
    obtain h | h := inheriting_obj fragment inherited <;> rw [h] <;> rfl

theorem exists_of_inheriting_eq_obj (h : v.inheriting inherited = .obj shown) :
    ∃ fragment, v = .obj fragment := by
  have hSome : v.members?.isSome := by
    rw [← isSome_members?_inheriting v inherited, h]
    rfl
  obtain ⟨fragment, hFragment⟩ := Option.isSome_iff_exists.mp hSome
  exact ⟨fragment, members?_eq_some_iff.mp hFragment⟩

/-- Under a name other than `type` a branch has what is written there. -/
theorem get?_of_inheriting {name : String} (hName : name ≠ "type")
    (h : (obj fragment).inheriting inherited = .obj shown) :
    shown.get? name = fragment.get? name := by
  obtain hSame | hSet := inheriting_obj fragment inherited
  · rw [hSame] at h
    cases h
    rfl
  · rw [hSet] at h
    cases h
    rw [Members.get?_set, if_neg hName]

end Json

end SchemaOutline
