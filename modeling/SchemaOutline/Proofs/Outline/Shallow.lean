import SchemaOutline.Proofs.Fragment.Typing
import SchemaOutline.Proofs.Outline.Held
import SchemaOutline.Proofs.Success

/-!
# Documents that nest within the limit

Counting the entries of a document and looking for an `allOf` list both run out of room on a
document that nests too deeply. Neither fails on a document that nests within the limit. The depth
of a branch that takes over a type can be that of the combiner itself, because the type counts too,
and so what goes down from one value to the next is not its depth but the room that its parts need
(`Json.Shallow`), to which no type matters.
-/

set_option autoImplicit false

namespace SchemaOutline

namespace Json

variable {v : Json} {items : List Json} {members : List (String × Json)}

theorem depthOfItems_le_iff {n : Nat} : depthOfItems items ≤ n ↔ ∀ v ∈ items, v.depth ≤ n := by
  induction items with
  | nil => simp [depthOfItems]
  | cons v rest ih => rw [depthOfItems, Nat.max_le, ih, List.forall_mem_cons]

theorem depthOfMembers_le_iff {n : Nat} :
    depthOfMembers members ≤ n ↔ ∀ member ∈ members, member.2.depth ≤ n := by
  induction members with
  | nil => simp [depthOfMembers]
  | cons member rest ih => rw [depthOfMembers, Nat.max_le, ih, List.forall_mem_cons]

theorem depth_lt_of_mem_items (h : v ∈ items) : v.depth < (arr items).depth := by
  have hLe := depthOfItems_le_iff.mp (Nat.le_refl _) v h
  rw [depth]
  omega

theorem depth_lt_of_mem_members {member : String × Json} (h : member ∈ members) :
    member.2.depth < (obj members).depth := by
  have hLe := depthOfMembers_le_iff.mp (Nat.le_refl _) member h
  rw [depth]
  omega

theorem depth_get_lt (members : Members) (name : String) :
    (members.get name).depth < (obj members).depth := by
  unfold Members.get
  cases hGet : members.get? name with
  | none =>
    rw [depth]
    exact Nat.succ_pos _
  | some v => exact depth_lt_of_mem_members (Members.mem_of_get? hGet)

theorem depth_lt_of_mem_parts {fragment : Members} (h : v ∈ Fragment.parts fragment) :
    v.depth < (obj fragment).depth := by
  obtain ⟨keyword, -, hMem⟩ | rfl | ⟨keyword, -, hMem⟩ := Fragment.mem_parts_iff.mp h
  · have hLt := depth_get_lt fragment keyword
    cases hGet : fragment.get keyword with
    | arr items =>
      rw [hGet] at hMem hLt
      exact Nat.lt_trans (depth_lt_of_mem_items hMem) hLt
    | _ =>
      rw [hGet] at hMem
      cases hMem
  · exact depth_get_lt fragment "items"
  · have hLt := depth_get_lt fragment keyword
    cases hGet : fragment.get keyword with
    | obj named =>
      rw [hGet] at hMem hLt
      obtain ⟨member, hMember, rfl⟩ := List.mem_map.mp hMem
      exact Nat.lt_trans (depth_lt_of_mem_members hMember) hLt
    | _ =>
      rw [hGet] at hMem
      cases hMem

/-- There is room for a value and for what is in its parts, whatever types stand beside them. -/
structure Shallow (room : Nat) (v : Json) : Prop where
  entry : callsPerEntry ≤ room
  parts : ∀ fragment, v = .obj fragment →
    ∀ part ∈ Fragment.parts fragment, callsPerEntry * (part.depth + 2) ≤ room

namespace Shallow

variable {room more : Nat} {fragment : Members}

theorem of_depth (h : callsPerEntry * (v.depth + 1) ≤ room) : v.Shallow room where
  entry := Nat.le_trans (Nat.le_mul_of_pos_right _ (Nat.succ_pos _)) h
  parts := by
    rintro fragment rfl part hPart
    have hLt := depth_lt_of_mem_parts hPart
    exact Nat.le_trans (Nat.mul_le_mul_left _ (Nat.succ_le_succ hLt)) h

theorem mono (h : v.Shallow room) (hLe : room ≤ more) : v.Shallow more where
  entry := Nat.le_trans h.entry hLe
  parts fragment hFragment part hPart := Nat.le_trans (h.parts fragment hFragment part hPart) hLe

theorem of_mem_parts (h : (obj fragment).Shallow (room + callsPerEntry))
    (hMem : v ∈ Fragment.parts fragment) : v.Shallow room := by
  have hDepth := h.parts fragment rfl v hMem
  exact of_depth (Nat.le_of_add_le_add_right hDepth)

/-- A branch needs no more room with a type that it has taken over. -/
theorem inheriting (h : v.Shallow room) (inherited : Json) :
    (v.inheriting inherited).Shallow room where
  entry := h.entry
  parts := by
    intro shown hShown part hPart
    obtain ⟨fragment, rfl⟩ := exists_of_inheriting_eq_obj hShown
    have hSame : Fragment.parts shown = Fragment.parts fragment :=
      Fragment.parts_congr fun name hName => get?_of_inheriting hName hShown
    rw [hSame] at hPart
    exact h.parts fragment rfl part hPart

/-- Going through arrays to the target of a fragment takes no more room than there is. -/
theorem target (h : (obj fragment).Shallow (room + callsPerEntry)) :
    callsInPlace * (Fragment.target fragment).1 ≤ room ∧
      (obj (Fragment.target fragment).2).Shallow
        (room - callsInPlace * (Fragment.target fragment).1 + callsPerEntry) := by
  induction fragment using Fragment.target.induct generalizing room with
  | case1 fragment inner hItems hKind ih =>
    have hInner : (obj inner).Shallow room :=
      h.of_mem_parts (Fragment.mem_parts_iff.mpr (.inr (.inl hItems.symm)))
    obtain ⟨left, rfl⟩ := Nat.exists_eq_add_of_le' hInner.entry
    obtain ⟨hRoom, hTarget⟩ := ih hInner
    have hLess : callsInPlace ≤ callsPerEntry := by decide
    rw [Fragment.target_of_items hKind hItems, Nat.mul_succ]
    exact ⟨by omega, hTarget.mono (by omega)⟩
  | case2 fragment inner hItems hKind =>
    rw [Fragment.target_of_kind hKind]
    exact ⟨Nat.zero_le _, h⟩
  | case3 fragment hItems =>
    rw [Fragment.target_of_items_ne (members?_eq_none_of_ne hItems)]
    exact ⟨Nat.zero_le _, h⟩

end Shallow

end Json

namespace Fragment

open Expansion

variable {fragment : Members} {room : Nat} {v : Json}

/-- What a fragment holds is found when there is room for the fragment, and there is room for it. -/
theorem exists_held_of_shallow (h : (Json.obj fragment).Shallow (room + callsPerEntry)) :
    ∃ found, held room fragment = .ok found ∧
      ∀ v ∈ found.values, v.Shallow (found.roomBelow room) := by
  obtain ⟨hRoom, hTarget⟩ := h.target
  refine ⟨_, (held_eq_ite room fragment).trans (if_pos hRoom), fun v hMem => ?_⟩
  obtain ⟨part, hPart, inherited, rfl, -⟩ := exists_part_of_mem hMem
  exact (hTarget.of_mem_parts hPart).inheriting inherited

end Fragment

namespace Estimate

variable {room : Nat} {v document : Json}

/-- The entries of a value for which there is room can be counted. -/
theorem exists_countFrom (h : v.Shallow room) (total : Nat) :
    ∃ count, countFrom none room total v = .ok count := by
  induction room using Nat.strongRecOn generalizing total v with
  | ind room ih =>
    cases v with
    | obj fragment =>
      have hRoom : ¬ room < callsPerCount :=
        Nat.not_lt.mpr (Nat.le_trans (by decide) h.entry)
      obtain ⟨left, hLeft⟩ := Nat.exists_eq_add_of_le' h.entry
      obtain ⟨found, hHeld, hValues⟩ := Fragment.exists_held_of_shallow (hLeft ▸ h)
      -- Counting an entry takes up less room than drawing it.
      have hLess : left ≤ room - callsPerCount := by
        have hFewer : callsPerCount ≤ callsPerEntry := by decide
        omega
      rw [countFrom, if_neg (by simp [exceeds]), if_neg hRoom]
      split
      · exact ⟨total + 1, rfl⟩
      · rw [Fragment.held_mono hHeld hLess]
        refine exists_foldlM (fun v hMem => ih _ (found.roomBelow_lt hRoom) ?_) (total + 1)
        exact (hValues v hMem).mono (Nat.sub_le_sub_right hLess _)
    | _ => exact ⟨total, countFrom_of_members?_eq_none _ _ _ rfl⟩

theorem exists_findAllOf (h : v.depth < room) : ∃ found, findAllOf room v = .ok found := by
  induction room generalizing v with
  | zero => omega
  | succ room ih =>
    cases v with
    | arr items =>
      rw [findAllOf]
      apply exists_anyM
      intro item hMem
      have hLt := Json.depth_lt_of_mem_items hMem
      exact ih (by omega)
    | obj members =>
      unfold findAllOf
      split
      · exact ⟨true, rfl⟩
      · apply exists_anyM
        rintro ⟨keyword, v⟩ hMem
        have hLt := Json.depth_lt_of_mem_members hMem
        dsimp only at hLt ⊢
        split
        · exact ⟨false, rfl⟩
        · split
          · split
            · apply exists_anyM
              intro member hMember
              have hNamed := Json.depth_lt_of_mem_members hMember
              exact ih (by omega)
            · exact ih (by omega)
          · exact ih (by omega)
    | _ => exact ⟨false, rfl⟩

/-- Both looks at a document that nests within the limit come to an end. -/
theorem exists_of_depth (h : document.depth < nestingLimit) :
    (∃ count, entryCount document none = .ok count) ∧
      ∃ mentions, mentionsAllOf document = .ok mentions := by
  obtain ⟨count, hCount⟩ := exists_countFrom (.of_depth (Nat.mul_le_mul_left _ h)) 0
  obtain ⟨mentions, hMentions⟩ := exists_findAllOf h
  exact ⟨⟨count, mapError_eq_ok_iff.mpr hCount⟩, ⟨mentions, mapError_eq_ok_iff.mpr hMentions⟩⟩

end Estimate

end SchemaOutline
