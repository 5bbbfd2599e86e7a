import SchemaOutline.AllOf
import SchemaOutline.Outline.Estimate
import SchemaOutline.Proofs.Success

/-!
# Where there is nothing to fold

Looking for an `allOf` list and folding it are two traversals with tables of their own. Every place
that folding can change is one at which the search looks, so a value in which the search finds
nothing is left as it is (`foldAllOf?_of_mentionsAllOf`).
-/

set_option autoImplicit false

namespace SchemaOutline

namespace Json

open Fragment

def Settled (depth : Nat) (v : Json) : Prop := v.foldAllOf = v ∧ v.foldDepth ≤ depth

theorem Settled.mono {depth deeper : Nat} {v : Json} (h : v.Settled depth) (hLe : depth ≤ deeper) :
    v.Settled deeper := ⟨h.1, Nat.le_trans h.2 hLe⟩

/-- Folding finds nothing to change under a keyword of a fragment. -/
structure SettledUnder (depth : Nat) (keyword : String) (v : Json) : Prop where
  named : ∀ inner, v = .obj inner → keyword ∈ namedSchemaKeywords →
    ∀ member ∈ inner, member.2.Settled depth
  schema : keyword ∈ schemaKeywords → v.Settled depth
  listed : ∀ items, v = .arr items → keyword ∈ schemaListKeywords ∨ keyword ∈ schemaKeywords →
    ∀ item ∈ items, item.Settled depth

variable {depth : Nat} {members : List (String × Json)} {items : List Json}

theorem foldNamed_of_settled (h : ∀ member ∈ members, member.2.Settled depth) :
    foldNamed members = members ∧ foldDepthOfNamed members ≤ depth := by
  induction members with
  | nil => exact ⟨rfl, Nat.zero_le _⟩
  | cons member rest ih =>
    obtain ⟨name, v⟩ := member
    obtain ⟨hSame, hDepth⟩ : v.Settled depth := h _ List.mem_cons_self
    obtain ⟨hRest, hRestDepth⟩ := ih fun member hMem => h member (List.mem_cons_of_mem _ hMem)
    rw [foldNamed, foldDepthOfNamed, hSame, hRest]
    exact ⟨rfl, Nat.max_le.mpr ⟨hDepth, hRestDepth⟩⟩

theorem foldItems_of_settled (h : ∀ item ∈ items, item.Settled depth) :
    foldItems items = items ∧ foldDepthOfItems items ≤ depth := by
  induction items with
  | nil => exact ⟨rfl, Nat.zero_le _⟩
  | cons v rest ih =>
    obtain ⟨hSame, hDepth⟩ : v.Settled depth := h _ List.mem_cons_self
    obtain ⟨hRest, hRestDepth⟩ := ih fun item hMem => h item (List.mem_cons_of_mem _ hMem)
    rw [foldItems, foldDepthOfItems, hSame, hRest]
    exact ⟨rfl, Nat.max_le.mpr ⟨hDepth, hRestDepth⟩⟩

theorem foldMembers_of_settled
    (h : ∀ keyword v, (keyword, v) ∈ members → SettledUnder depth keyword v) :
    foldMembers members = members ∧ foldDepthOfMembers members ≤ depth := by
  induction members with
  | nil => exact ⟨rfl, Nat.zero_le _⟩
  | cons member rest ih =>
    obtain ⟨keyword, v⟩ := member
    have hFirst : SettledUnder depth keyword v := h _ _ List.mem_cons_self
    obtain ⟨hRest, hRestDepth⟩ := ih fun keyword v hMem => h keyword v (List.mem_cons_of_mem _ hMem)
    cases v with
    | obj inner =>
      rw [foldMembers, foldDepthOfMembers, hRest, Nat.max_le]
      simp only [List.contains_iff_mem]
      split
      · rename_i hNamed
        obtain ⟨hInner, hDepth⟩ := foldNamed_of_settled (hFirst.named inner rfl hNamed)
        rw [hInner]
        exact ⟨rfl, hDepth, hRestDepth⟩
      · split
        · rename_i hSchema
          obtain ⟨hInner, hDepth⟩ := hFirst.schema hSchema
          rw [foldAllOf] at hInner
          rw [hInner]
          exact ⟨rfl, hDepth, hRestDepth⟩
        · exact ⟨rfl, Nat.zero_le _, hRestDepth⟩
    | arr items =>
      rw [foldMembers, foldDepthOfMembers, hRest, Nat.max_le]
      simp only [List.contains_iff_mem, Bool.or_eq_true]
      split
      · rename_i hListed
        obtain ⟨hItems, hDepth⟩ := foldItems_of_settled (hFirst.listed items rfl hListed)
        rw [hItems]
        exact ⟨rfl, hDepth, hRestDepth⟩
      · exact ⟨rfl, Nat.zero_le _, hRestDepth⟩
    | _ => exact ⟨congrArg _ hRest, hRestDepth⟩

theorem settled_obj (hOwn : ((Members.get members "allOf").items?) = none)
    (h : ∀ keyword v, (keyword, v) ∈ members → SettledUnder depth keyword v) :
    (obj members).Settled (depth + 1) := by
  obtain ⟨hMembers, hDepth⟩ := foldMembers_of_settled h
  constructor
  · rw [foldAllOf, hMembers, foldOwn]
    cases hAllOf : Members.get members "allOf" with
    | arr branches =>
      rw [hAllOf] at hOwn
      cases hOwn
    | _ => rfl
  · rw [foldDepth]
    exact Nat.succ_le_succ hDepth

end Json

namespace Estimate

theorem keyword_of_named : ∀ keyword ∈ Fragment.namedSchemaKeywords,
    keyword ∈ namedSchemaKeywords ∧ keyword ∉ dataKeywords := by decide

theorem keyword_of_schema : ∀ keyword, keyword ∈ Fragment.schemaListKeywords ∨
    keyword ∈ Fragment.schemaKeywords → keyword ∉ namedSchemaKeywords ∧ keyword ∉ dataKeywords := by
  have h : ∀ keyword ∈ Fragment.schemaListKeywords ++ Fragment.schemaKeywords,
      keyword ∉ namedSchemaKeywords ∧ keyword ∉ dataKeywords := by decide
  exact fun keyword hKeyword => h keyword (List.mem_append.mpr hKeyword)

/-- Where the search finds nothing folding has nothing to change, neither in the value itself nor,
if that is a list, in its items. -/
theorem settled_of_findAllOf {room : Nat} {v : Json} (h : findAllOf room v = .ok false) :
    v.Settled room ∧ ∀ items, v = .arr items → ∀ item ∈ items, item.Settled room := by
  induction room generalizing v with
  | zero =>
    rw [findAllOf] at h
    cases h
  | succ room ih =>
    cases v with
    | arr items =>
      refine ⟨⟨rfl, Nat.zero_le _⟩, ?_⟩
      rintro _ ⟨⟩ item hMem
      rw [findAllOf, anyM_eq_ok_false_iff] at h
      exact (ih (h item hMem)).1.mono (Nat.le_succ room)
    | obj fragment =>
      refine ⟨?_, nofun⟩
      rw [findAllOf] at h
      split at h
      · cases h
      · rename_i hAllOf
        rw [anyM_eq_ok_false_iff] at h
        have hOwn : (Members.get fragment "allOf").items? = none := by
          cases hGet : Members.get fragment "allOf" with
          | arr branches => exact absurd hGet (hAllOf branches)
          | _ => rfl
        refine Json.settled_obj hOwn fun keyword v hMem => ?_
        have hMember := h _ hMem
        simp only [List.contains_iff_mem] at hMember
        refine ⟨?_, ?_, ?_⟩
        · rintro inner rfl hKeyword member hInner
          obtain ⟨hNamed, hData⟩ := keyword_of_named keyword hKeyword
          simp only [if_neg hData, if_pos hNamed, anyM_eq_ok_false_iff] at hMember
          exact (ih (hMember member hInner)).1
        · intro hKeyword
          obtain ⟨hNamed, hData⟩ := keyword_of_schema keyword (.inr hKeyword)
          have hSearched : findAllOf room v = .ok false := by
            cases v <;> simpa only [if_neg hData, if_neg hNamed] using hMember
          exact (ih hSearched).1
        · rintro items rfl hKeyword
          obtain ⟨-, hData⟩ := keyword_of_schema keyword hKeyword
          simp only [if_neg hData] at hMember
          exact (ih hMember).2 items rfl
    | _ => exact ⟨⟨rfl, Nat.zero_le _⟩, nofun⟩

/-- A document that is found not to mention `allOf` can be folded and is left as it is. -/
theorem foldAllOf?_of_mentionsAllOf {v : Json} (h : mentionsAllOf v = .ok false) :
    v.foldAllOf? = .ok v := by
  have hSearched : findAllOf nestingLimit v = .ok false := mapError_eq_ok_iff.mp h
  obtain ⟨⟨hSame, hDepth⟩, -⟩ := settled_of_findAllOf hSearched
  rw [Json.foldAllOf?, if_pos hDepth, hSame]

end Estimate

end SchemaOutline
