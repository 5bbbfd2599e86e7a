import SchemaOutline.Proofs.Json.Lookup
import SchemaOutline.Proofs.Outline.Forest

/-!
# Where the entries of a forest are found

`Outline.Has` says that an entry stands at a position together with its record, and
`Outline.HasForest` that a whole forest does, from a position on. A forest in an outline is taken
apart tree by tree (`HasForest.tree`), and a forest without repeated identifiers is found where it
was planted (`hasForest_plant`).
-/

set_option autoImplicit false

namespace SchemaOutline

namespace Entry

variable {entry : Entry} {children : List Nat}

@[simp] theorem id_withChildren (entry : Entry) (children : List Nat) :
    (entry.withChildren children).id = entry.id := by
  unfold withChildren
  induction children generalizing entry with
  | nil => rfl
  | cons child rest ih => exact ih _

@[simp] theorem level_withChildren (entry : Entry) (children : List Nat) :
    (entry.withChildren children).level = entry.level := by
  unfold withChildren
  induction children generalizing entry with
  | nil => rfl
  | cons child rest ih => exact ih _

@[simp] theorem parent_withChildren (entry : Entry) (children : List Nat) :
    (entry.withChildren children).parent = entry.parent := by
  unfold withChildren
  induction children generalizing entry with
  | nil => rfl
  | cons child rest ih => exact ih _

theorem children_withChildren {present : List Int} (h : entry.children = some present)
    (children : List Nat) :
    (entry.withChildren children).children = some (present ++ children.map Nat.cast) := by
  unfold withChildren
  induction children generalizing entry present with
  | nil => simpa using h
  | cons child rest ih =>
    have hChild : (entry.withChild child).children = some (present ++ [(child : Int)]) := by
      simp [withChild, childList, h]
    rw [List.foldl_cons, ih hChild, List.map_cons, List.append_assoc]
    rfl

end Entry

namespace Forest

def topRecords : Forest → List Record
  | bare => []
  | tree record _ _ beside => record :: beside.topRecords

theorem id_of_mem_rows {forest : Forest} {n : Nat} {parent : Option Nat} {level : Int}
    {entry : Entry} {record : Record} (h : (entry, record) ∈ forest.rows n parent level) :
    entry.id = record.summary.id := by
  induction forest generalizing n parent level with
  | bare => cases h
  | tree own expandable below beside ihBelow ihBeside =>
    simp only [rows, List.cons_append, List.mem_cons, List.mem_append, Prod.mk.injEq] at h
    rcases h with ⟨rfl, rfl⟩ | h | h
    · rw [Entry.id_withChildren]
    · exact ihBelow h
    · exact ihBeside h

end Forest

namespace Outline

def Has (outline : Outline) (p : Nat) (entry : Entry) (record : Record) : Prop :=
  outline.entries[p]? = some entry ∧ outline.record? entry.id = some record

/-- Some entry of the outline has the location in its record. -/
def Shows (outline : Outline) (location : Location) : Prop :=
  ∃ p entry record, outline.Has p entry record ∧ record.location = location

theorem mem_locations_of_shows {outline : Outline} {location : Location}
    (h : outline.Shows location) : location ∈ outline.records.map (·.2.location) := by
  obtain ⟨_, entry, record, ⟨-, hRecord⟩, rfl⟩ := h
  obtain ⟨before, after, hRecords, -⟩ := List.lookup_eq_some_iff.mp hRecord
  refine List.mem_map.mpr ⟨(entry.id, record), ?_, rfl⟩
  rw [hRecords]
  exact List.mem_append_right _ List.mem_cons_self

/-- The entries of a forest stand in an outline with their records, the first one at a position. -/
def HasForest (outline : Outline) (n : Nat) (parent : Option Nat) (level : Int) (forest : Forest) :
    Prop :=
  ∀ i entry record, (forest.rows n parent level)[i]? = some (entry, record) →
    outline.Has (n + i) entry record

variable {outline : Outline} {n : Nat} {parent : Option Nat} {level : Int}

/-- A tree that stands at a position: its own entry, then the trees below it and then those beside
it. -/
theorem HasForest.tree {record : Record} {expandable : Bool} {below beside : Forest}
    (h : outline.HasForest n parent level (.tree record expandable below beside)) :
    (∃ entry, outline.Has n entry record ∧ entry.id = record.summary.id ∧ entry.level = level ∧
      entry.parent = parent.map Nat.cast ∧
      (expandable = true → entry.children = some ((below.tops (n + 1)).map Nat.cast)) ∧
      (expandable = false → below = .bare → entry.children = none)) ∧
    outline.HasForest (n + 1) (some n) (level + 1) below ∧
    outline.HasForest (n + 1 + below.size) parent level beside := by
  refine ⟨⟨_, h 0 _ _ rfl, ?_, ?_, ?_, ?_, ?_⟩, ?_, ?_⟩
  · simp
  · simp
  · simp
  · intro hExpandable
    rw [@Entry.children_withChildren _ [] (by simp [hExpandable]), List.nil_append]
  · rintro hExpandable rfl
    simp [Forest.tops, hExpandable]
  · intro i entry record hRow
    have hLt : i < below.size := by
      rw [← below.length_rows (n + 1) (some n) (level + 1)]
      exact (List.getElem?_eq_some_iff.mp hRow).1
    have hHas := h (i + 1) entry record (by
      rw [Forest.rows, List.cons_append, List.getElem?_cons_succ, List.getElem?_append_left]
      · exact hRow
      · rwa [Forest.length_rows])
    rwa [show n + (i + 1) = n + 1 + i by omega] at hHas
  · intro i entry record hRow
    have hHas := h (below.size + i + 1) entry record (by
      rw [Forest.rows, List.cons_append, List.getElem?_cons_succ, List.getElem?_append_right] <;>
        rw [Forest.length_rows]
      · rwa [Nat.add_sub_cancel_left]
      · exact Nat.le_add_right _ _)
    rwa [show n + (below.size + i + 1) = n + 1 + below.size + i by omega] at hHas

theorem hasForest_plant {forest : Forest} (hParent : outline.HasParent parent)
    (hFree : outline.IsFreeFor forest) :
    (outline.plant parent level forest).HasForest outline.size parent level forest := by
  intro i entry record hRow
  have hMem := List.mem_of_getElem? hRow
  have hRecord : record ∈ forest.records := by
    rw [← forest.map_snd_rows outline.size parent level]
    exact List.mem_map_of_mem hMem
  have hSize : (adoptingAll outline.entries parent (forest.tops outline.size)).size =
      outline.size := size_adoptingAll _ _ _
  constructor
  · rw [entries_plant hParent, Array.getElem?_append_right (by omega), hSize,
      Nat.add_sub_cancel_left]
    simp [hRow]
  · have hNew : outline.records.lookup record.summary.id = none :=
      hFree.2 _ (List.mem_map_of_mem hRecord)
    rw [record?, records_plant, Forest.id_of_mem_rows hMem, List.lookup_append, hNew,
      Option.none_or]
    apply lookup_of_mem
    · simpa [Forest.ids, Function.comp_def] using hFree.1
    · exact List.mem_map_of_mem hRecord

theorem hasForest_ofForest {forest : Forest} (hIds : forest.ids.Nodup) :
    (ofForest forest).HasForest 0 none 0 forest :=
  hasForest_plant (hasParent_none empty) ⟨hIds, fun _ _ => rfl⟩

theorem roots_rows (forest : Forest) (n : Nat) (parent : Option Nat) (level : Int) :
    (((forest.rows n parent level).map Prod.fst).zipIdx n).filterMap (fun (entry, index) =>
        if entry.parent.isNone then some index else none) =
      if parent.isNone then forest.tops n else [] := by
  induction forest generalizing n parent level with
  | bare => simp [Forest.rows, Forest.tops]
  | tree record expandable below beside ihBelow ihBeside =>
    rw [Forest.rows, Forest.tops, List.cons_append, List.map_cons, List.map_append,
      List.zipIdx_cons, List.zipIdx_append, List.length_map, Forest.length_rows,
      List.filterMap_cons, List.filterMap_append, ihBelow, ihBeside]
    cases parent <;> simp

/-- The outline of a forest is known from its entries and records. -/
theorem ofParts_ofForest (forest : Forest) :
    ofParts (ofForest forest).entries (ofForest forest).records = ofForest forest := by
  have hRoots : (ofParts (ofForest forest).entries (ofForest forest).records).roots =
      (ofForest forest).roots := by
    rw [roots_ofForest, ofParts, entries_ofForest]
    exact roots_rows forest 0 none 0
  exact congr (congrArg _ hRoots) rfl

end Outline

end SchemaOutline
