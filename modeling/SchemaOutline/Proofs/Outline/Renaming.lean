import SchemaOutline.Proofs.Identifier
import SchemaOutline.Proofs.Outline.Sketch

/-!
# Outlines under other identifiers

Renaming the identifiers of a forest renames those of its outline and changes nothing else there
(`ofForest_renamed`). Two forests that agree when their identifiers are taken away can be renamed
into each other where these do not repeat (`Forest.exists_renamed`).
-/

set_option autoImplicit false

namespace SchemaOutline

section

variable (rename : String → String)

def Record.renamed (record : Record) : Record :=
  { record with summary := record.summary.withId (rename record.summary.id) }

theorem Record.eq_of_renamed_eq {rename : String → String} {record other : Record}
    (h : record.renamed rename = other.renamed rename)
    (hId : record.summary.id = other.summary.id) : record = other := by
  calc
    record = (record.renamed rename).renamed fun _ => record.summary.id := rfl
    _ = (other.renamed rename).renamed fun _ => record.summary.id := by rw [h]
    _ = other := by
      rw [hId]
      rfl

def Entry.renamed (entry : Entry) : Entry := { entry with id := rename entry.id }

def Outline.renamed (outline : Outline) : Outline where
  entries := outline.entries.map (Entry.renamed rename)
  roots := outline.roots
  records := outline.records.map fun (id, record) => (rename id, record.renamed rename)

theorem Entry.withChildren_renamed (entry : Entry) (children : List Nat) :
    (entry.withChildren children).renamed rename =
      (entry.renamed rename).withChildren children := by
  unfold withChildren
  induction children generalizing entry with
  | nil => rfl
  | cons child rest ih => exact ih _

end

theorem exists_map_eq {first second : List String} (hFirst : first.Nodup)
    (hLength : first.length = second.length) :
    ∃ rename : String → String, first.map rename = second := by
  refine ⟨fun id => (second[first.idxOf id]?).getD "", ?_⟩
  apply List.ext_getElem
  · simpa using hLength
  · intro i hLeft hRight
    have hLt : i < first.length := by simpa using hLeft
    simp [hFirst.idxOf_getElem i hLt, hRight]

namespace Forest

def renamed (rename : String → String) : Forest → Forest
  | bare => .bare
  | tree record expandable below beside =>
    .tree (record.renamed rename) expandable (below.renamed rename) (beside.renamed rename)

section

variable (rename : String → String) (forest : Forest)

@[simp] theorem size_renamed : (forest.renamed rename).size = forest.size := by
  induction forest with
  | bare => rfl
  | tree record expandable below beside ihBelow ihBeside =>
    rw [renamed, size, size, ihBelow, ihBeside]

@[simp] theorem tops_renamed (n : Nat) : (forest.renamed rename).tops n = forest.tops n := by
  induction forest generalizing n with
  | bare => rfl
  | tree record expandable below beside _ ihBeside =>
    rw [renamed, tops, tops, size_renamed, ihBeside]

theorem records_renamed :
    (forest.renamed rename).records = forest.records.map (Record.renamed rename) := by
  induction forest with
  | bare => rfl
  | tree record expandable below beside ihBelow ihBeside =>
    rw [renamed, records, records, ihBelow, ihBeside, List.cons_append, List.cons_append,
      List.map_cons, List.map_append]

theorem ids_renamed : (forest.renamed rename).ids = forest.ids.map rename := by
  rw [ids, records_renamed, ids, List.map_map, List.map_map]
  rfl

theorem rows_renamed (n : Nat) (parent : Option Nat) (level : Int) :
    (forest.renamed rename).rows n parent level =
      (forest.rows n parent level).map fun (entry, record) =>
        (entry.renamed rename, record.renamed rename) := by
  induction forest generalizing n parent level with
  | bare => rfl
  | tree record expandable below beside ihBelow ihBeside =>
    rw [renamed, rows, rows, size_renamed, tops_renamed, ihBelow, ihBeside, List.map_append,
      List.map_cons]
    simp only [Entry.withChildren_renamed]
    rfl

theorem renamed_renamed (other : String → String) :
    (forest.renamed rename).renamed other = forest.renamed (other ∘ rename) := by
  induction forest with
  | bare => rfl
  | tree record expandable below beside ihBelow ihBeside =>
    rw [renamed, renamed, ihBelow, ihBeside]
    rfl

end

/-- The forest without its identifiers. -/
def unlabelled (forest : Forest) : Forest := forest.renamed fun _ => ""

theorem length_ids (forest : Forest) : forest.ids.length = forest.size := by
  induction forest with
  | bare => rfl
  | tree record expandable below beside ihBelow ihBeside =>
    rw [ids_tree, List.length_cons, List.length_append, ihBelow, ihBeside, size]
    omega

theorem eq_of_unlabelled_eq {first second : Forest} (h : first.unlabelled = second.unlabelled)
    (hIds : first.ids = second.ids) : first = second := by
  induction first generalizing second with
  | bare =>
    cases second with
    | bare => rfl
    | tree => cases h
  | tree record expandable below beside ihBelow ihBeside =>
    cases second with
    | bare => cases h
    | tree record' expandable' below' beside' =>
      simp only [unlabelled, renamed, tree.injEq] at h
      obtain ⟨hRecord, rfl, hBelow, hBeside⟩ := h
      have hSize : below.ids.length = below'.ids.length := by
        rw [length_ids, length_ids, ← size_renamed fun _ => "", hBelow, size_renamed]
      rw [ids_tree, ids_tree, List.cons.injEq] at hIds
      obtain ⟨hId, hRest⟩ := hIds
      obtain ⟨hBelowIds, hBesideIds⟩ := List.append_inj hRest hSize
      rw [Record.eq_of_renamed_eq hRecord hId, ihBelow hBelow hBelowIds,
        ihBeside hBeside hBesideIds]

/-- Forests that agree without their identifiers differ by a renaming if those of the first do not
repeat. -/
theorem exists_renamed {first second : Forest} (h : first.unlabelled = second.unlabelled)
    (hFirst : first.ids.Nodup) :
    ∃ rename, second = first.renamed rename := by
  have hLength : first.ids.length = second.ids.length := by
    rw [length_ids, length_ids, ← size_renamed fun _ => "", ← size_renamed _ second]
    exact congrArg size h
  obtain ⟨rename, hRename⟩ := exists_map_eq hFirst hLength
  refine ⟨rename, eq_of_unlabelled_eq ?_ ?_⟩
  · rw [unlabelled, unlabelled, renamed_renamed]
    exact h.symm
  · rw [ids_renamed, hRename]

end Forest

namespace Outline

theorem ofForest_renamed (rename : String → String) (forest : Forest) :
    ofForest (forest.renamed rename) = (ofForest forest).renamed rename := by
  have hEntries : (ofForest (forest.renamed rename)).entries =
      ((ofForest forest).renamed rename).entries := by
    rw [renamed, entries_ofForest, entries_ofForest, Forest.rows_renamed]
    simp
  have hRoots : (ofForest (forest.renamed rename)).roots =
      ((ofForest forest).renamed rename).roots := by
    rw [renamed, roots_ofForest, roots_ofForest, Forest.tops_renamed]
  have hRecords : (ofForest (forest.renamed rename)).records =
      ((ofForest forest).renamed rename).records := by
    rw [renamed, records_ofForest, records_ofForest, Forest.records_renamed]
    simp [Record.renamed]
  exact congr (congr (congrArg Outline.mk hEntries) hRoots) hRecords

end Outline

end SchemaOutline
