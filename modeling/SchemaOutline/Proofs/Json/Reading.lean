import SchemaOutline.Json.Reader
import SchemaOutline.Proofs.Json.Lookup
import SchemaOutline.Proofs.Success

/-!
# What the reader accepts

A value that was read from a text names no member twice (`Json.noDuplicates_of_read`): where a name
is repeated in the text the later value has replaced the earlier one.
-/

set_option autoImplicit false

namespace SchemaOutline

namespace Members

variable {members : Members} {name : String} {v : Json}

theorem mem_names_set {other : String} (h : other ∈ (members.set name v).names) :
    other ∈ members.names ∨ other = name := by
  induction members with
  | nil => simpa [set, names] using h
  | cons member rest ih =>
    rw [set] at h
    split at h
    · exact .inl h
    · simp only [names, List.map_cons, List.mem_cons] at h ih ⊢
      rcases h with h | h
      · exact .inl (.inl h)
      · rcases ih h with h | h
        · exact .inl (.inr h)
        · exact .inr h

theorem nodup_names_set (h : members.names.Nodup) : (members.set name v).names.Nodup := by
  induction members with
  | nil => simp [set, names]
  | cons member rest ih =>
    rw [set]
    split
    · exact h
    · rename_i hNe
      simp only [names, List.map_cons, List.nodup_cons] at h ih ⊢
      refine ⟨fun hMem => ?_, ih h.2⟩
      rcases mem_names_set hMem with hMem | hEq
      · exact h.1 hMem
      · exact hNe (beq_iff_eq.mpr hEq)

theorem mem_set {member : String × Json} (h : member ∈ members.set name v) :
    member ∈ members ∨ member = (name, v) := by
  induction members with
  | nil => exact .inr (List.mem_singleton.mp h)
  | cons first rest ih =>
    rw [set] at h
    split at h
    · rename_i hName
      rcases List.mem_cons.mp h with rfl | h
      · exact .inr (by rw [eq_of_beq hName])
      · exact .inl (List.mem_cons_of_mem _ h)
    · rcases List.mem_cons.mp h with rfl | h
      · exact .inl List.mem_cons_self
      · rcases ih h with h | h
        · exact .inl (List.mem_cons_of_mem _ h)
        · exact .inr h

end Members

namespace Json

variable {members : Members} {name : String} {v : Json}

theorem NoDuplicates.set (h : (obj members).NoDuplicates) (hValue : v.NoDuplicates) :
    (obj (members.set name v)).NoDuplicates := by
  rw [NoDuplicates, noDuplicatesInMembers_iff] at h ⊢
  refine ⟨Members.nodup_names_set h.1, fun member hMem => ?_⟩
  rcases Members.mem_set hMem with hOld | hNew
  · exact h.2 member hOld
  · rwa [hNew]

theorem noDuplicates_ofPairs {pairs : List (String × Json)}
    (h : ∀ pair ∈ pairs, pair.2.NoDuplicates) : (obj (Members.ofPairs pairs)).NoDuplicates := by
  have hFrom : ∀ members : Members, (obj members).NoDuplicates →
      (obj (pairs.foldl (fun (members : Members) (pair : String × Json) =>
        members.set pair.1 pair.2) members)).NoDuplicates := by
    induction pairs with
    | nil => exact fun _ hMembers => hMembers
    | cons pair rest ih =>
      intro members hMembers
      exact ih (fun other hMem => h other (List.mem_cons_of_mem _ hMem)) _
        (hMembers.set (h pair List.mem_cons_self))
  exact hFrom [] (by simp [NoDuplicates, NoDuplicatesInMembers])

namespace Reader

variable {room fuel : Nat} {cs rest : List Char}

theorem noDuplicates_of_word? (h : word? cs = some (v, rest)) : v.NoDuplicates := by
  obtain ⟨⟨word, w⟩, hMem, hWord⟩ := List.exists_of_findSome?_eq_some h
  have hWords : ∀ entry ∈ words, entry.2.NoDuplicates := by
    simp [words, NoDuplicates]
  dsimp only at hWord
  split at hWord
  · cases hWord
    exact hWords _ hMem
  · cases hWord

theorem noDuplicates_of_number (h : number cs = .ok (v, rest)) : v.NoDuplicates := by
  simp only [number] at h
  repeat' split at h
  all_goals cases h <;> simp [NoDuplicates]

/-- What is read with some fuel, in each of the three ways of reading. -/
structure Sound (fuel : Nat) : Prop where
  value : ∀ {room cs v rest}, value fuel room cs = .ok (v, rest) → v.NoDuplicates
  items : ∀ {room done cs items rest}, itemsFrom fuel room done cs = .ok (items, rest) →
    (∀ item ∈ done, item.NoDuplicates) → ∀ item ∈ items, item.NoDuplicates
  pairs : ∀ {room done cs pairs rest}, pairsFrom fuel room done cs = .ok (pairs, rest) →
    (∀ pair ∈ done, pair.2.NoDuplicates) → ∀ pair ∈ pairs, pair.2.NoDuplicates

theorem Sound.value_succ (h : Sound fuel)
    (hValue : Reader.value (fuel + 1) room cs = .ok (v, rest)) : v.NoDuplicates := by
  unfold Reader.value at hValue
  split at hValue
  · obtain ⟨⟨s, rest⟩, -, hValue⟩ := bind_eq_ok_iff.mp hValue
    cases hValue
    simp [NoDuplicates]
  · split at hValue
    · cases hValue
    · split at hValue
      · cases hValue
        simp [NoDuplicates, NoDuplicatesInItems]
      · obtain ⟨⟨items, rest⟩, hItems, hValue⟩ := bind_eq_ok_iff.mp hValue
        cases hValue
        rw [NoDuplicates, noDuplicatesInItems_iff]
        exact h.items hItems (List.forall_mem_nil _)
  · split at hValue
    · cases hValue
    · split at hValue
      · cases hValue
        simp [NoDuplicates, NoDuplicatesInMembers]
      · obtain ⟨⟨pairs, rest⟩, hPairs, hValue⟩ := bind_eq_ok_iff.mp hValue
        cases hValue
        exact noDuplicates_ofPairs (h.pairs hPairs (List.forall_mem_nil _))
  · split at hValue
    · rename_i hWord
      cases hValue
      exact noDuplicates_of_word? hWord
    · exact noDuplicates_of_number hValue

theorem Sound.items_succ (h : Sound fuel) {done items : List Json}
    (hItems : itemsFrom (fuel + 1) room done cs = .ok (items, rest))
    (hDone : ∀ item ∈ done, item.NoDuplicates) : ∀ item ∈ items, item.NoDuplicates := by
  unfold itemsFrom at hItems
  obtain ⟨⟨v, rest⟩, hValue, hItems⟩ := bind_eq_ok_iff.mp hItems
  have hMore : ∀ item ∈ v :: done, item.NoDuplicates :=
    List.forall_mem_cons.mpr ⟨h.value hValue, hDone⟩
  dsimp only at hItems
  split at hItems
  · cases hItems
    exact fun item hMem => hMore item (List.mem_reverse.mp hMem)
  · exact h.items hItems hMore
  · cases hItems

theorem Sound.pairs_succ (h : Sound fuel) {done pairs : List (String × Json)}
    (hPairs : pairsFrom (fuel + 1) room done cs = .ok (pairs, rest))
    (hDone : ∀ pair ∈ done, pair.2.NoDuplicates) : ∀ pair ∈ pairs, pair.2.NoDuplicates := by
  unfold pairsFrom at hPairs
  split at hPairs
  · obtain ⟨⟨name, rest⟩, -, hPairs⟩ := bind_eq_ok_iff.mp hPairs
    dsimp only at hPairs
    split at hPairs
    · obtain ⟨⟨v, rest⟩, hValue, hPairs⟩ := bind_eq_ok_iff.mp hPairs
      have hMore : ∀ pair ∈ (name, v) :: done, pair.2.NoDuplicates :=
        List.forall_mem_cons.mpr ⟨h.value hValue, hDone⟩
      dsimp only at hPairs
      split at hPairs
      · cases hPairs
        exact fun pair hMem => hMore pair (List.mem_reverse.mp hMem)
      · exact h.pairs hPairs hMore
      · cases hPairs
    · cases hPairs
  · cases hPairs

theorem sound (fuel : Nat) : Sound fuel := by
  induction fuel with
  | zero =>
    refine ⟨fun h => ?_, fun h => ?_, fun h => ?_⟩
    · cases h
    · cases h
    · cases h
  | succ fuel ih => exact ⟨ih.value_succ, ih.items_succ, ih.pairs_succ⟩

end Reader

theorem noDuplicates_of_read {room : Nat} {text : String} (h : read room text = .ok v) :
    v.NoDuplicates := by
  simp only [read] at h
  split at h
  · cases h
  · obtain ⟨⟨w, rest⟩, hValue, h⟩ := bind_eq_ok_iff.mp h
    dsimp only at h
    split at h
    · cases h
      exact (Reader.sound _).value hValue
    · cases h

end Json

end SchemaOutline
