import SchemaOutline.Proofs.Outline.Origin

/-!
# The children of an entry

Without a limit every fragment below an entry is drawn, so the children of an entry are the listed
parts of the target of its fragment, one for one and in order (`children_of_draw`).
-/

set_option autoImplicit false

namespace SchemaOutline

namespace Outline

def locationOf? (outline : Outline) (index : Int) : Option Location := do
  let position ← outline.position? index
  let entry ← outline.entries[position]?
  let record ← outline.record? entry.id
  return record.location

variable {outline : Outline} {document : Json}

theorem locationOf?_of_has {p : Nat} {entry : Entry} {record : Record}
    (h : outline.Has p entry record) : outline.locationOf? p = some record.location := by
  have hLt : p < outline.size := (Array.getElem?_eq_some_iff.mp h.1).1
  have hPosition : outline.position? p = some p := by rw [position?_natCast, if_pos hLt]
  simp [locationOf?, hPosition, h.1, h.2]

theorem shows_of_locationOf? {index : Int} {location : Location}
    (h : outline.locationOf? index = some location) : outline.Shows location := by
  obtain ⟨position, -, h⟩ := Option.bind_eq_some_iff.mp h
  obtain ⟨entry, hEntry, h⟩ := Option.bind_eq_some_iff.mp h
  obtain ⟨record, hRecord, h⟩ := Option.bind_eq_some_iff.mp h
  exact ⟨position, entry, record, ⟨hEntry, hRecord⟩, Option.some.inj h⟩

theorem HasForest.map_locationOf? {n : Nat} {parent : Option Nat} {level : Int} {forest : Forest}
    (h : outline.HasForest n parent level forest) :
    ((forest.tops n).map Nat.cast).map outline.locationOf? =
      forest.topRecords.map fun record => some record.location := by
  induction forest generalizing n with
  | bare => rfl
  | tree record expandable below beside _ ihBeside =>
    obtain ⟨⟨entry, hHas, -⟩, -, hBeside⟩ := h.tree
    rw [Forest.tops, Forest.topRecords, List.map_cons, List.map_cons, List.map_cons,
      ihBeside hBeside]
    congr 1
    exact locationOf?_of_has hHas

end Outline

theorem Yields.map_location {room : Nat} {above : Option String} {level : Int} {location : Location}
    {descents : List Descent} {stock stock' : Stock Unit} {forest : Forest}
    (h : Yields .unlimited room above level location descents stock forest stock') :
    forest.topRecords.map Record.location =
      ((descents.filter (·.value.members?.isSome)).map Descent.steps).map (location ++ ·) := by
  induction h with
  | done => rfl
  | passed hValue _ ih => rw [ih, List.filter_cons_of_neg (by simp [hValue])]
  | keptOut _ _ _ hJudge => cases hJudge
  | drawn hValue _ _ _ _ _ _ _ ihRest =>
    rw [Forest.topRecords, List.map_cons, ihRest,
      List.filter_cons_of_pos (by simp [hValue, Json.members?])]
    rfl

namespace Outline

variable {outline : Outline} {document : Json} {n : Nat} {entry : Entry} {record : Record}
  {shown : Members} {inherited : Json}

theorem Drawn.children_of_reference {σ : Type} {gate : Gate σ} {reference : String}
    (h : Drawn gate outline document n entry record shown inherited)
    (hShape : record.summary.shape = .reference reference) :
    entry.children =
      if Summary.isLocalTarget reference && !Summary.isRootTarget reference then some []
      else none := by
  obtain ⟨room, expansion, stock, stock', forest, hExpansion, hYields, -, hExpanded, hLeaf⟩ :=
    h.below
  rw [Expansion.ofSummary, hShape] at hExpansion
  cases hExpansion
  cases hYields
  split
  · rename_i hLocal
    exact hExpanded hLocal
  · rename_i hElsewhere
    exact hLeaf (Bool.eq_false_iff.mpr hElsewhere) rfl

theorem Drawn.children_of_kind
    (h : Drawn .unlimited outline document n entry record shown inherited)
    (hKind : record.summary.kind ≠ .reference) :
    entry.children.map (·.map outline.locationOf?) =
      (Fragment.listed? (Fragment.target shown).2).map (·.map fun passage =>
        some (record.location ++ throughItems (Fragment.target shown).1 ++ passage.steps)) := by
  obtain ⟨room, expansion, stock, stock', forest, hExpansion, hYields, hForest, hExpanded, hLeaf⟩ :=
    h.below
  obtain ⟨reference, hShape, -⟩ | ⟨-, rfl⟩ :=
    Expansion.ofSummary_cases h.standsFor.summarised hExpansion
  · rw [Summary.kind, hShape] at hKind
    exact absurd rfl hKind
  have hLocations := hYields.map_location
  rw [Expansion.steps_ofParts, List.map_map] at hLocations
  rw [Expansion.expandable_ofParts] at hExpanded hLeaf
  cases hListed : Fragment.listed? (Fragment.target shown).2 with
  | none =>
    rw [hListed] at hLeaf hLocations
    have hBare : forest = .bare := by
      cases forest with
      | bare => rfl
      | tree => cases hLocations
    rw [hLeaf rfl hBare]
    rfl
  | some passages =>
    rw [hListed] at hExpanded hLocations
    rw [hExpanded rfl, Option.map_some, hForest.map_locationOf?, Option.map_some]
    have hSome := congrArg (List.map some) hLocations
    simpa [Function.comp_def] using hSome

theorem Drawn.shows_of_listed
    (h : Drawn .unlimited outline document n entry record shown inherited)
    (hKind : record.summary.kind ≠ .reference) {passages : List Passage}
    (hListed : Fragment.listed? (Fragment.target shown).2 = some passages) {passage : Passage}
    (hMem : passage ∈ passages) :
    outline.Shows (record.location ++ throughItems (Fragment.target shown).1 ++ passage.steps) := by
  have hChildren := h.children_of_kind hKind
  rw [hListed, Option.map_some] at hChildren
  obtain ⟨children, -, hLocations⟩ := Option.map_eq_some_iff.mp hChildren
  have hLocation : some (record.location ++ throughItems (Fragment.target shown).1
      ++ passage.steps) ∈ children.map outline.locationOf? := by
    rw [hLocations]
    exact List.mem_map.mpr ⟨passage, hMem, rfl⟩
  obtain ⟨index, -, hIndex⟩ := List.mem_map.mp hLocation
  exact shows_of_locationOf? hIndex

/-- No fragment is lost, doubled or moved: in an outline that is drawn without a limit a reference
has no children, and the children of any other entry are the listed parts of the target of its
fragment, each once and in order. -/
theorem children_of_draw (hDocument : document.NoDuplicates) {ids : IdSource}
    (hDraw : (draw .unlimited () ids document).1 = .ok outline) (hEntry : entry ∈ outline.entries) :
    ∃ record shown inherited, outline.StandsFor document entry record shown inherited ∧
      (∀ reference, record.summary.shape = .reference reference →
        entry.children =
          if Summary.isLocalTarget reference && !Summary.isRootTarget reference then some []
          else none) ∧
      (record.summary.kind ≠ .reference →
        entry.children.map (·.map outline.locationOf?) =
          (Fragment.listed? (Fragment.target shown).2).map (·.map fun passage =>
            some (record.location ++ throughItems (Fragment.target shown).1
              ++ passage.steps))) := by
  obtain ⟨_, record, shown, inherited, hDrawn⟩ := drawn_of_draw hDocument hDraw hEntry
  exact ⟨record, shown, inherited, hDrawn.standsFor, fun _ hShape =>
    hDrawn.children_of_reference hShape, hDrawn.children_of_kind⟩

/-- Properties of both kinds below items in place, among them a list that is no fragment and a tuple
with a position that is none. -/
def mixedItems : Json :=
  .obj [("items", .obj [("items", .obj [
    ("patternProperties", .obj [("^x", .obj [("$ref", .str "#/a")])]),
    ("properties", .obj [("b", .obj [("items", .arr [.obj [], .null, .obj []])]), ("c", .arr []),
      ("a", .obj [("$ref", .str "#")])])])])]

theorem children_of_draw_mixedItems :
    ∃ outline, (draw .unlimited () (.numbered "n") mixedItems).1 = .ok outline ∧
      outline.entries.toList.map (·.children) =
        [some [1, 4, 5], some [2, 3], none, none, none, some []] ∧
      ∀ entry ∈ outline.entries, ∃ record shown inherited,
        outline.StandsFor mixedItems entry record shown inherited ∧
        (∀ reference, record.summary.shape = .reference reference →
          entry.children =
            if Summary.isLocalTarget reference && !Summary.isRootTarget reference then some []
            else none) ∧
        (record.summary.kind ≠ .reference →
          entry.children.map (·.map outline.locationOf?) =
            (Fragment.listed? (Fragment.target shown).2).map (·.map fun passage =>
              some (record.location ++ throughItems (Fragment.target shown).1
                ++ passage.steps))) := by
  have hNames : mixedItems.NoDuplicates := by
    simp [mixedItems, Json.NoDuplicates, Json.NoDuplicatesInMembers, Json.NoDuplicatesInItems]
  have hChildren :
      (draw .unlimited () (.numbered "n") mixedItems).1.toOption.map
          (·.entries.toList.map (·.children)) =
        some [some [1, 4, 5], some [2, 3], none, none, none, some []] := by
    decide +kernel
  obtain ⟨outline, hDraw, hEntries⟩ := exists_ok_of_map_toOption hChildren
  exact ⟨outline, hDraw, hEntries, fun entry hEntry => children_of_draw hNames hDraw hEntry⟩

end Outline

end SchemaOutline
