import SchemaOutline.Proofs.Fragment.Typing
import SchemaOutline.Proofs.Outline.Target

/-!
# What a fragment holds

Entries are counted by what a fragment holds (`Fragment.held`) and drawn by what its expansion
lists. Without a combiner the two are the same (`held_of_summary`). The branches of a combiner are
held with its type as written and listed with its type as summarised, so that the two are the same
if all types of combiners are names (`held_of_lendsNames`).
-/

set_option autoImplicit false

namespace SchemaOutline

namespace Expansion

open Fragment

def values (expansion : Expansion) : List Json := expansion.descents.map Descent.value

theorem values_leaf (lead : List Step) : (leaf lead).values = [] := rfl

theorem values_ofBranches (lead : List Step) (c : Combiner) (branches : List Json) (type : Json) :
    (ofBranches lead c branches type).values = branches.map (·.inheriting type) := by
  have hFirst : branches.zipIdx.map (fun entry => entry.1.inheriting type) =
      (branches.zipIdx.map Prod.fst).map (·.inheriting type) := by
    rw [List.map_map]
    rfl
  rw [List.zipIdx_map_fst] at hFirst
  rw [values, ofBranches, List.map_map]
  exact hFirst

theorem values_ofTuple (lead : List Step) (items : List Json) :
    (ofTuple lead items).values = items := by
  rw [values, ofTuple, List.map_map]
  exact List.zipIdx_map_fst 0 items

theorem values_ofProperties (lead : List Step) (properties patternProperties : Option Members) :
    (ofProperties lead properties patternProperties).values =
      (properties.getD []).values ++ (patternProperties.getD []).values := by
  rw [values, ofProperties, ofNamed, ofNamed, List.map_append, List.map_map, List.map_map]
  rfl

/-- What is listed does not depend on the way that leads there. -/
theorem values_ofParts (lead : List Step) (fragment : Members) (type : Json) :
    (ofParts lead fragment type).values = (ofParts [] fragment type).values := by
  unfold ofParts
  split
  · rw [values_ofBranches, values_ofBranches]
  · split
    · split
      · rw [values_ofTuple, values_ofTuple]
      · rfl
    · rw [values_ofProperties, values_ofProperties]
    · rfl

/-- What is listed are parts of the fragment. Those of a combiner have taken over a type. -/
theorem exists_part_of_mem {lead : List Step} {fragment : Members} {type v : Json}
    (h : v ∈ (ofParts lead fragment type).values) :
    ∃ part ∈ parts fragment, ∃ inherited, v = part.inheriting inherited ∧
      (inherited = .null ∨ (combiner? fragment).isSome ∧ inherited = type) := by
  cases hKind : structuralKind fragment with
  | combiner =>
    obtain ⟨c, hCombiner⟩ := exists_combiner_of_kind hKind
    rw [ofParts_of_combiner _ _ hCombiner, values_ofBranches] at h
    obtain ⟨branch, hBranch, rfl⟩ := List.mem_map.mp h
    have hPart : branch ∈ parts fragment := by
      refine mem_parts_iff.mpr (.inl ⟨c.keyword, ?_, hBranch⟩)
      cases c <;> decide
    exact ⟨branch, hPart, type, rfl, .inr ⟨by rw [hCombiner]; rfl, rfl⟩⟩
  | object =>
    rw [ofParts_of_object _ _ hKind, values_ofProperties] at h
    refine ⟨v, mem_parts_iff.mpr (.inr (.inr ?_)), .null, (Json.inheriting_null v).symm, .inl rfl⟩
    obtain hMem | hMem := List.mem_append.mp h
    · exact ⟨"properties", by decide, hMem⟩
    · exact ⟨"patternProperties", by decide, hMem⟩
  | array =>
    rw [ofParts_of_array _ _ hKind] at h
    refine ⟨v, mem_parts_iff.mpr (.inl ⟨"items", by decide, ?_⟩), .null,
      (Json.inheriting_null v).symm, .inl rfl⟩
    cases hItems : fragment.get "items" with
    | arr items =>
      rw [hItems] at h
      exact values_ofTuple lead items ▸ h
    | _ =>
      rw [hItems] at h
      cases h
  | reference | scalar =>
    rw [ofParts_of_scalar _ _ (by rw [hKind]; decide) (by rw [hKind]; decide)
      (by rw [hKind]; decide)] at h
    cases h

/-- An expansion without its locations. -/
def held (expansion : Expansion) : Held := ⟨expansion.values, expansion.arrays⟩

end Expansion

namespace Fragment

open Expansion

variable {fragment : Members} {room : Nat}

theorem held_of_combiner {c : Combiner} (h : combiner? fragment = some c) :
    held room fragment = .ok ⟨((fragment.get c.keyword).items?.getD []).map
      (·.inheriting (fragment.get "type")), 0⟩ := by
  unfold held
  rw [h]

theorem held_of_object (h : structuralKind fragment = .object) :
    held room fragment = .ok ⟨((fragment.get "properties").members?.getD []).values ++
      ((fragment.get "patternProperties").members?.getD []).values, 0⟩ := by
  unfold held
  rw [combiner?_eq_none_of_kind (by rw [h]; decide), h]

theorem held_of_scalar (hCombiner : structuralKind fragment ≠ .combiner)
    (hArray : structuralKind fragment ≠ .array) (hObject : structuralKind fragment ≠ .object) :
    held room fragment = .ok ⟨[], 0⟩ := by
  unfold held
  rw [combiner?_eq_none_of_kind hCombiner]
  cases hKind : structuralKind fragment <;> first | rfl | contradiction

/-- Of an array only the items count. -/
theorem held_congr_of_array {other : Members} (hKind : structuralKind fragment = .array)
    (hOther : structuralKind other = .array)
    (hItems : fragment.get "items" = other.get "items") : held room fragment = held room other := by
  rw [held.eq_def, held.eq_def room other, combiner?_eq_none_of_kind (by rw [hKind]; decide),
    combiner?_eq_none_of_kind (by rw [hOther]; decide), hKind, hOther, hItems]

/-- What is not found through `items` are the parts of the fragment itself. -/
theorem held_of_parts
    (h : structuralKind fragment = .array → (fragment.get "items").members? = none) :
    held room fragment = .ok ⟨(ofParts [] fragment (fragment.get "type")).values, 0⟩ := by
  cases hKind : structuralKind fragment with
  | combiner =>
    obtain ⟨c, hCombiner⟩ := exists_combiner_of_kind hKind
    rw [held_of_combiner hCombiner, ofParts_of_combiner _ _ hCombiner, values_ofBranches]
  | object => rw [held_of_object hKind, ofParts_of_object _ _ hKind, values_ofProperties]
  | array =>
    have hNoMembers := h hKind
    rw [held.eq_def, combiner?_eq_none_of_kind (by rw [hKind]; decide), hKind,
      ofParts_of_array _ _ hKind]
    cases hItems : fragment.get "items" with
    | arr items => rw [values_ofTuple]
    | obj inner =>
      rw [hItems] at hNoMembers
      cases hNoMembers
    | _ => rfl
  | reference | scalar =>
    have hCombiner : structuralKind fragment ≠ .combiner := by rw [hKind]; decide
    have hArray : structuralKind fragment ≠ .array := by rw [hKind]; decide
    have hObject : structuralKind fragment ≠ .object := by rw [hKind]; decide
    rw [held_of_scalar hCombiner hArray hObject,
      ofParts_of_scalar _ _ hCombiner hArray hObject, values_leaf]

/-- What is held are the parts of the target, if there is room for all the arrays on the way. -/
theorem held_eq_ite (room : Nat) (fragment : Members) :
    held room fragment =
      if callsInPlace * (target fragment).1 ≤ room then
        .ok ⟨(ofParts [] (target fragment).2 ((target fragment).2.get "type")).values,
          (target fragment).1⟩
      else .error .tooDeep := by
  induction fragment using target.induct generalizing room with
  | case1 fragment inner hItems hKind ih =>
    rw [held.eq_def, combiner?_eq_none_of_kind (by rw [hKind]; decide), hKind, hItems,
      target_of_items hKind hItems, Nat.mul_succ]
    dsimp only
    by_cases hRoom : room < callsInPlace
    · rw [if_pos hRoom, if_neg (by omega)]
    obtain ⟨left, rfl⟩ := Nat.exists_eq_add_of_le' (Nat.le_of_not_lt hRoom)
    rw [if_neg hRoom, Nat.add_sub_cancel, ih left]
    simp only [Nat.add_le_add_iff_right]
    split <;> rfl
  | case2 fragment inner hItems hKind =>
    rw [target_of_kind hKind, held_of_parts fun hArray => absurd hArray hKind]
    simp
  | case3 fragment hItems =>
    have hMembers : (fragment.get "items").members? = none := Json.members?_eq_none_of_ne hItems
    rw [target_of_items_ne hMembers, held_of_parts fun _ => hMembers]
    simp

theorem held_eq {found : Held} (h : held room fragment = .ok found) :
    found = ⟨(ofParts [] (target fragment).2 ((target fragment).2.get "type")).values,
      (target fragment).1⟩ := by
  rw [held_eq_ite] at h
  split at h
  · exact (Except.ok.inj h).symm
  · cases h

theorem held_mono {more : Nat} {found : Held} (h : held room fragment = .ok found)
    (hLe : room ≤ more) : held more fragment = .ok found := by
  rw [held_eq_ite] at h ⊢
  split at h
  · rename_i hRoom
    rwa [if_pos (Nat.le_trans hRoom hLe)]
  · cases h

/-- An array holds what its items are expanded into. -/
theorem held_of_array (hKind : structuralKind fragment = .array) :
    held room fragment = (ofItems room [] (fragment.get "items")).map Expansion.held := by
  rw [held_eq_ite, ofItems_eq_ite hKind]
  split
  · rw [Except.map, Expansion.held, values_ofParts ([] ++ throughItems (target fragment).1)]
    simp [throughItems]
  · rfl

end Fragment

namespace Json.Throughout

open Fragment Expansion

variable {p : Members → Prop} {fragment : Members}

theorem target (h : (obj fragment).Throughout p) :
    (obj (Fragment.target fragment).2).Throughout p := by
  induction fragment using Fragment.target.induct with
  | case1 fragment inner hItems hKind ih =>
    rw [target_of_items hKind hItems]
    exact ih (hItems ▸ h.of_get_items)
  | case2 fragment inner hItems hKind => rwa [target_of_kind hKind]
  | case3 fragment hItems => rwa [target_of_items_ne (members?_eq_none_of_ne hItems)]

end Json.Throughout

namespace Json.LendsNames

open Fragment Expansion

variable {fragment : Members} {v : Json}

theorem of_mem_ofParts (h : (obj fragment).LendsNames) {lead : List Step}
    (hMem : v ∈ (ofParts lead fragment (fragment.get "type")).values) : v.LendsNames := by
  obtain ⟨part, hPart, inherited, rfl, hInherited⟩ := exists_part_of_mem hMem
  have hLends : part.LendsNames := Throughout.of_mem_parts h hPart
  obtain rfl | ⟨hCombiner, rfl⟩ := hInherited
  · rwa [inheriting_null]
  · exact hLends.inheriting (h.of_get_type hCombiner)

/-- Whatever is held by a fragment that lends only names does the same. -/
theorem of_mem_held (h : (obj fragment).LendsNames) {room : Nat} {found : Held}
    (hHeld : held room fragment = .ok found) (hMem : v ∈ found.values) : v.LendsNames := by
  obtain rfl := held_eq hHeld
  have hTarget : (obj (Fragment.target fragment).2).LendsNames := Throughout.target h
  exact hTarget.of_mem_ofParts hMem

end Json.LendsNames

namespace Expansion

open Fragment

variable {id : String} {fragment : Members} {inherited : Json} {summary : Summary} {room : Nat}
  {expansion : Expansion}

/-- Without a combiner a fragment holds what its summary lists. -/
theorem held_of_summary (hSummary : Summary.ofFragment id fragment inherited = .ok summary)
    (hExpansion : ofSummary room summary = .ok expansion) (hCombiner : combiner? fragment = none)
    (hReference : isReference fragment = false) :
    Fragment.held room fragment = .ok expansion.held := by
  obtain ⟨c, hSome, -⟩ | ⟨-, hTrue, -⟩ | ⟨-, -, hShape⟩ := Summary.shape_of_ofFragment hSummary
  · rw [hCombiner] at hSome
    cases hSome
  · rw [hReference] at hTrue
    cases hTrue
  unfold ofSummary at hExpansion
  cases hKind : structuralKind fragment with
  | array =>
    rw [hKind] at hShape
    rw [hShape] at hExpansion
    replace hExpansion : ofItems room [] (fragment.get "items") = .ok expansion := hExpansion
    rw [held_of_array hKind, hExpansion]
    rfl
  | object =>
    rw [hKind] at hShape
    obtain ⟨additional, required, hShape⟩ := hShape
    rw [hShape] at hExpansion
    cases hExpansion
    rw [held_of_object hKind, held, values_ofProperties]
    rfl
  | combiner =>
    obtain ⟨c, hSome⟩ := exists_combiner_of_kind hKind
    rw [hCombiner] at hSome
    cases hSome
  | reference | scalar =>
    rw [hKind] at hShape
    rw [hShape] at hExpansion
    cases hExpansion
    rw [held_of_scalar (by rw [hKind]; decide) (by rw [hKind]; decide) (by rw [hKind]; decide)]
    rfl

theorem held_of_branches {c : Combiner} (hCombiner : combiner? fragment = some c)
    (hSummary : Summary.ofFragment id fragment inherited = .ok summary)
    (hExpansion : ofSummary room summary = .ok expansion) :
    expansion.held =
      ⟨((fragment.get c.keyword).items?.getD []).map (·.inheriting summary.typeValue), 0⟩ := by
  obtain ⟨_, hSome, hShape, -⟩ | ⟨hNone, -⟩ | ⟨hNone, -⟩ := Summary.shape_of_ofFragment hSummary
  · rw [hCombiner] at hSome
    cases hSome
    rw [ofSummary, hShape] at hExpansion
    cases hExpansion
    rw [held, values_ofBranches]
    rfl
  all_goals
    rw [hCombiner] at hNone
    cases hNone

theorem type_of_combiner {c : Combiner} (hCombiner : combiner? fragment = some c)
    (hSummary : Summary.ofFragment id fragment inherited = .ok summary) :
    summary.typeValue = fragment.get "type" ∨
      TypeName.ofJson? (fragment.get "type") = none ∧ summary.typeValue = .null := by
  obtain ⟨_, -, -, hType⟩ | ⟨hNone, -⟩ | ⟨hNone, -⟩ := Summary.shape_of_ofFragment hSummary
  · exact Summary.typeValue_cases hType
  all_goals
    rw [hCombiner] at hNone
    cases hNone

/-- Where a combiner has a type that is a name, the fragment holds exactly what is listed. -/
theorem held_of_lendsNames (h : (Json.obj fragment).LendsNames)
    (hReference : combiner? fragment = none → isReference fragment = false)
    (hSummary : Summary.ofFragment id fragment inherited = .ok summary)
    (hExpansion : ofSummary room summary = .ok expansion) :
    Fragment.held room fragment = .ok expansion.held := by
  cases hCombiner : combiner? fragment with
  | none => exact held_of_summary hSummary hExpansion hCombiner (hReference hCombiner)
  | some c =>
    have hValue : summary.typeValue = fragment.get "type" := by
      obtain hType | ⟨hNone, hType⟩ := type_of_combiner hCombiner hSummary
      · exact hType
      · obtain hNull | hSome := h.of_get_type (by rw [hCombiner]; rfl)
        · exact hType.trans hNull.symm
        · rw [hNone] at hSome
          cases hSome
    rw [held_of_combiner hCombiner, held_of_branches hCombiner hSummary hExpansion, hValue]

theorem values_eq_nil_of_reference (hCombiner : combiner? fragment = none)
    (hReference : isReference fragment = true)
    (hSummary : Summary.ofFragment id fragment inherited = .ok summary)
    (hExpansion : ofSummary room summary = .ok expansion) : expansion.values = [] := by
  obtain ⟨_, hSome, -⟩ | ⟨-, -, target, hShape⟩ | ⟨-, hFalse, -⟩ :=
    Summary.shape_of_ofFragment hSummary
  · rw [hCombiner] at hSome
    cases hSome
  · rw [ofSummary, hShape] at hExpansion
    cases hExpansion
    rfl
  · rw [hReference] at hFalse
    cases hFalse

end Expansion

end SchemaOutline
