import SchemaOutline.Fragment
import SchemaOutline.Location

/-!
# Looking into JSON values

Names are looked up in objects and locations in values. `Json.at?` follows a location step by step
and fails where a step leads nowhere; in a value that names no member twice, every member of an
object is found under its name (`Members.get?_of_mem`).
-/

set_option autoImplicit false

namespace SchemaOutline

theorem lookup_of_mem {α : Type} {pairs : List (String × α)} {key : String} {a : α}
    (hKeys : (pairs.map Prod.fst).Nodup) (h : (key, a) ∈ pairs) : pairs.lookup key = some a := by
  obtain ⟨before, after, rfl⟩ := List.append_of_mem h
  refine List.lookup_eq_some_iff.mpr ⟨before, after, rfl, ?_⟩
  intro pair hPair
  rw [bne_iff_ne]
  rintro rfl
  rw [List.map_append, List.nodup_append] at hKeys
  exact hKeys.2.2 _ (List.mem_map.mpr ⟨pair, hPair, rfl⟩) _ (by simp) rfl

namespace Members

variable {members : Members} {name other : String} {v : Json}

theorem get?_nil (name : String) : get? [] name = none := rfl

theorem get?_cons (member : String × Json) (rest : Members) (name : String) :
    get? (member :: rest) name = if name = member.1 then some member.2 else get? rest name := by
  unfold get?
  rw [List.lookup_cons]
  by_cases h : name = member.1
  · rw [if_pos h, beq_iff_eq.mpr h]
  · rw [if_neg h, beq_eq_false_iff_ne.mpr h]

theorem get_eq_iff (hValue : v ≠ .null) : members.get name = v ↔ members.get? name = some v := by
  unfold get
  cases members.get? name with
  | none => simpa using hValue.symm
  | some w => simp

theorem get?_of_get_eq_obj {inner : Members} (h : members.get name = .obj inner) :
    members.get? name = some (.obj inner) :=
  (get_eq_iff (by simp)).mp h

theorem get?_of_get_eq_arr {items : List Json} (h : members.get name = .arr items) :
    members.get? name = some (.arr items) :=
  (get_eq_iff (by simp)).mp h

theorem mem_of_get? (h : members.get? name = some v) : (name, v) ∈ members := by
  obtain ⟨before, after, rfl, -⟩ := List.lookup_eq_some_iff.mp h
  simp

theorem sizeOf_lt_of_get? (h : members.get? name = some v) : sizeOf v < sizeOf members := by
  have hMember := List.sizeOf_lt_of_mem (mem_of_get? h)
  have hPair : sizeOf v < sizeOf (name, v) := by
    simp only [Prod.mk.sizeOf_spec]
    omega
  exact Nat.lt_trans hPair hMember

theorem get?_of_mem (hNames : members.names.Nodup) (h : (name, v) ∈ members) :
    members.get? name = some v := lookup_of_mem hNames h

theorem mem_values_of_get? (h : members.get? name = some v) : v ∈ members.values :=
  List.mem_map.mpr ⟨_, mem_of_get? h, rfl⟩

theorem exists_get?_of_mem_values (hNames : members.names.Nodup) (h : v ∈ members.values) :
    ∃ name, members.get? name = some v := by
  obtain ⟨member, hMem, rfl⟩ := List.mem_map.mp h
  exact ⟨member.1, get?_of_mem hNames hMem⟩

theorem get?_map (f : String → Json → Json) (members : Members) (name : String) :
    get? (members.map fun (name, v) => (name, f name v)) name =
      (members.get? name).map (f name) := by
  induction members with
  | nil => rfl
  | cons member rest ih =>
    obtain ⟨other, v⟩ := member
    rw [List.map_cons, get?_cons, get?_cons, ih]
    by_cases hName : name = other
    · rw [if_pos hName, if_pos hName, hName]
      rfl
    · rw [if_neg hName, if_neg hName]

theorem get?_set (members : Members) (name other : String) (v : Json) :
    (members.set other v).get? name = if name = other then some v else members.get? name := by
  induction members with
  | nil => simp [set, get?_cons, get?_nil]
  | cons member rest ih =>
    rw [set]
    split
    · rename_i hEq
      rw [get?_cons, get?_cons, ← eq_of_beq hEq]
      split <;> rfl
    · rename_i hNe
      have hNe : member.1 ≠ other := by simpa using hNe
      rw [get?_cons, get?_cons, ih]
      split
      · rename_i hName
        rw [if_neg (by rwa [hName])]
      · rfl

theorem get?_erase (members : Members) (name other : String) :
    (members.erase other).get? name = if name = other then none else members.get? name := by
  induction members with
  | nil => simp [erase, get?_nil]
  | cons member rest ih =>
    unfold erase at ih ⊢
    by_cases hMember : member.1 = other
    · rw [List.filter_cons_of_neg (by simpa using hMember), ih, get?_cons, hMember]
      split <;> rfl
    · rw [List.filter_cons_of_pos (by simpa using hMember), get?_cons, ih, get?_cons]
      by_cases hName : name = member.1
      · rw [if_pos hName, if_pos hName, if_neg (by rwa [hName])]
      · rw [if_neg hName, if_neg hName]

theorem get_set (members : Members) (name : String) (v : Json) :
    (members.set name v).get name = v := by
  rw [get, get?_set, if_pos rfl, Option.getD_some]

theorem has_iff : members.has name = true ↔ name ∈ members.names := by
  induction members with
  | nil => simp [has, get?_nil, names]
  | cons member rest ih =>
    unfold has at ih ⊢
    rw [get?_cons, names, List.map_cons, List.mem_cons]
    split
    · rename_i hName
      simp [hName]
    · rename_i hName
      rw [ih, names, or_iff_right hName]

theorem get_of_has_eq_false (h : members.has name = false) : members.get name = .null := by
  rw [has, Option.isSome_eq_false_iff, Option.isNone_iff_eq_none] at h
  rw [get, h, Option.getD_none]

end Members

namespace Json

theorem members?_eq_some_iff {v : Json} {members : Members} :
    v.members? = some members ↔ v = .obj members := by
  cases v <;> simp [members?]

theorem members?_eq_none_of_ne {v : Json} (h : ∀ members, v ≠ .obj members) :
    v.members? = none := by
  cases v with
  | obj members => exact absurd rfl (h members)
  | _ => rfl

theorem items?_eq_some_iff {v : Json} {items : List Json} :
    v.items? = some items ↔ v = .arr items := by
  cases v <;> simp [items?]

def step? : Json → Step → Option Json
  | .obj members, .key name => Members.get? members name
  | .arr items, .index position => if 0 ≤ position then items[position.toNat]? else none
  | _, _ => none

theorem step?_key_eq_some_iff {v w : Json} {name : String} :
    v.step? (.key name) = some w ↔
      ∃ members : Members, v = .obj members ∧ members.get? name = some w := by
  cases v <;> simp [step?]

theorem step?_index_eq_some_iff {v w : Json} {position : Int} :
    v.step? (.index position) = some w ↔
      ∃ items, v = .arr items ∧ 0 ≤ position ∧ items[position.toNat]? = some w := by
  cases v <;> simp [step?]

def at? (v : Json) : Location → Option Json
  | [] => some v
  | step :: rest => (v.step? step).bind (·.at? rest)

@[simp] theorem at?_nil (v : Json) : v.at? [] = some v := rfl

theorem at?_cons (v : Json) (step : Step) (rest : Location) :
    v.at? (step :: rest) = (v.step? step).bind (·.at? rest) := rfl

theorem at?_append (v : Json) (first second : Location) :
    v.at? (first ++ second) = (v.at? first).bind (·.at? second) := by
  induction first generalizing v with
  | nil => rfl
  | cons step rest ih =>
    rw [List.cons_append, at?_cons, at?_cons, Option.bind_assoc]
    congr 1
    funext w
    exact ih w

theorem noDuplicatesInItems_iff {items : List Json} :
    NoDuplicatesInItems items ↔ ∀ v ∈ items, v.NoDuplicates := by
  induction items with
  | nil => simp [NoDuplicatesInItems]
  | cons v rest ih => simp [NoDuplicatesInItems, ih]

theorem noDuplicatesInMembers_iff {members : Members} :
    NoDuplicatesInMembers members ↔ ∀ member ∈ members, member.2.NoDuplicates := by
  induction members with
  | nil => simp [NoDuplicatesInMembers]
  | cons member rest ih => simp [NoDuplicatesInMembers, ih]

theorem noDuplicates_cons_iff {name : String} {v : Json} {rest : Members} :
    (obj ((name, v) :: rest)).NoDuplicates ↔
      name ∉ rest.names ∧ v.NoDuplicates ∧ (obj rest).NoDuplicates := by
  simp only [NoDuplicates, NoDuplicatesInMembers, List.map_cons, List.nodup_cons, Members.names]
  constructor
  · rintro ⟨⟨hFresh, hNames⟩, hValue, hRest⟩
    exact ⟨hFresh, hValue, hNames, hRest⟩
  · rintro ⟨hFresh, hValue, hNames, hRest⟩
    exact ⟨⟨hFresh, hNames⟩, hValue, hRest⟩

namespace NoDuplicates

variable {v w : Json} {members : Members} {items : List Json} {name : String}

theorem names (h : (obj members).NoDuplicates) : members.names.Nodup := by
  rw [NoDuplicates] at h
  exact h.1

theorem get? (h : (obj members).NoDuplicates) (hGet : members.get? name = some v) :
    v.NoDuplicates := by
  rw [NoDuplicates, noDuplicatesInMembers_iff] at h
  exact h.2 _ (Members.mem_of_get? hGet)

theorem of_get? (hNames : members.names.Nodup)
    (h : ∀ name v, members.get? name = some v → v.NoDuplicates) : (obj members).NoDuplicates := by
  rw [NoDuplicates, noDuplicatesInMembers_iff]
  exact ⟨hNames, fun member hMem => h _ _ (Members.get?_of_mem hNames hMem)⟩

theorem get (h : (obj members).NoDuplicates) (name : String) : (members.get name).NoDuplicates := by
  unfold Members.get
  cases hGet : members.get? name with
  | none => simp [NoDuplicates]
  | some v => exact h.get? hGet

theorem erase (h : (obj members).NoDuplicates) (name : String) :
    (obj (members.erase name)).NoDuplicates := by
  apply of_get?
  · exact h.names.sublist (List.filter_sublist.map _)
  · intro other v hGet
    rw [Members.get?_erase] at hGet
    split at hGet
    · cases hGet
    · exact h.get? hGet

theorem of_mem_values (h : (obj members).NoDuplicates) (hMem : v ∈ members.values) :
    v.NoDuplicates := by
  obtain ⟨name, hGet⟩ := Members.exists_get?_of_mem_values h.names hMem
  exact h.get? hGet

theorem of_mem_items (h : (arr items).NoDuplicates) (hMem : v ∈ items) : v.NoDuplicates := by
  rw [NoDuplicates, noDuplicatesInItems_iff] at h
  exact h v hMem

theorem members?_getD (h : v.NoDuplicates) : (obj (v.members?.getD [])).NoDuplicates := by
  cases v with
  | obj members => exact h
  | _ => exact of_get? List.nodup_nil nofun

theorem step? {step : Step} (h : v.NoDuplicates) (hStep : v.step? step = some w) :
    w.NoDuplicates := by
  unfold Json.step? at hStep
  split at hStep
  · exact h.get? hStep
  · split at hStep
    · exact h.of_mem_items (List.mem_of_getElem? hStep)
    · cases hStep
  · cases hStep

theorem at? {location : Location} (h : v.NoDuplicates) (hAt : v.at? location = some w) :
    w.NoDuplicates := by
  induction location generalizing v with
  | nil =>
    cases hAt
    exact h
  | cons step rest ih =>
    rw [at?_cons] at hAt
    obtain ⟨next, hStep, hRest⟩ := Option.bind_eq_some_iff.mp hAt
    exact ih (h.step? hStep) hRest

end NoDuplicates

end Json

end SchemaOutline
