import SchemaOutline.Proofs.Fragment.Folded
import SchemaOutline.Proofs.Outline.Reference

/-!
# Properties of folded documents

A property of a document has an entry exactly if the document is an object by structure and the
property is a fragment (`shows_property_iff`). Folding keeps every property that a branch declares,
but the folded document can be of another kind than its branches, and what a property is was decided
by the first of them to declare it. So a property that is shown in a branch can be hidden by folding
(`hidesProperty_of_folding`), for these two reasons and for no other (`shows_property_of_folded`).
-/

set_option autoImplicit false

namespace SchemaOutline

namespace Fragment

variable {fragment named : Members} {name : String}

theorem mem_fragmentNames_iff (hNames : named.names.Nodup) :
    name ∈ fragmentNames named ↔ ∃ v, named.get? name = some v ∧ v.members?.isSome := by
  constructor
  · intro h
    obtain ⟨⟨_, v⟩, hMem, rfl⟩ := List.mem_map.mp h
    obtain ⟨hMember, hFragment⟩ := List.mem_filter.mp hMem
    exact ⟨v, Members.get?_of_mem hNames hMember, hFragment⟩
  · rintro ⟨v, hGet, hFragment⟩
    refine List.mem_map.mpr ⟨(name, v), List.mem_filter.mpr ⟨?_, hFragment⟩, rfl⟩
    exact Members.mem_of_get? hGet

/-- A property is listed for a fragment that is an object by structure, if it is a fragment. -/
theorem property_listed_iff (hNames : (Json.obj fragment).NoDuplicates) :
    (∃ passages, listed? fragment = some passages ∧ .property name ∈ passages) ↔
      structuralKind fragment = .object ∧
        ∃ v, property? fragment name = some v ∧ v.members?.isSome := by
  unfold listed?
  cases hCombiner : combiner? fragment with
  | some c =>
    constructor
    · rintro ⟨passages, hPassages, hMem⟩
      cases hPassages
      obtain ⟨_, -, hPassage⟩ := List.mem_map.mp hMem
      cases hPassage
    · rintro ⟨hKind, -⟩
      rw [kind_of_combiner? hCombiner] at hKind
      cases hKind
  | none =>
    cases hKind : structuralKind fragment with
    | object =>
      have hNamed : (Json.obj ((fragment.get "properties").members?.getD [])).NoDuplicates :=
        (hNames.get "properties").members?_getD
      have hProperty : property? fragment name =
          Members.get? ((fragment.get "properties").members?.getD []) name := by
        unfold property?
        cases (fragment.get "properties").members? <;> rfl
      rw [hProperty, ← mem_fragmentNames_iff hNamed.names]
      simp only [true_and]
      split
      · simp
      · rename_i hNeither
        simp only [Bool.or_eq_true, not_or, Bool.not_eq_true, Option.isSome_eq_false_iff,
          Option.isNone_iff_eq_none] at hNeither
        simp [hNeither.1, fragmentNames]
    | array =>
      simp only [reduceCtorEq, false_and, iff_false]
      rintro ⟨passages, hPassages, hMem⟩
      obtain ⟨items, -, rfl⟩ := Option.map_eq_some_iff.mp hPassages
      obtain ⟨_, -, hPassage⟩ := List.mem_map.mp hMem
      cases hPassage
    | combiner | reference | scalar => simp

end Fragment

theorem Passage.eq_property {count : Nat} {passage : Passage} {name : String}
    (h : throughItems count ++ passage.steps = [.key "properties", .key name]) :
    count = 0 ∧ passage = .property name := by
  cases count with
  | zero =>
    rw [throughItems, List.replicate_zero, List.nil_append] at h
    cases passage with
    | property other =>
      cases h
      exact ⟨rfl, rfl⟩
    | _ => simp [steps] at h
  | succ count => simp [throughItems_succ] at h

namespace Outline

open Fragment

variable {outline : Outline} {document : Json} {root : Members} {entry : Entry} {record : Record}
  {shown : Members} {inherited : Json} {ids : IdSource} {name : String}

theorem StandsFor.document_of_root
    (h : outline.StandsFor document entry record shown inherited) (hRoot : record.location = []) :
    document = .obj shown := by
  obtain ⟨fragment, hAt, hShown⟩ := h.leads.fragment
  obtain ⟨-, rfl⟩ | ⟨_, _, _, _, passage, -, -, hLocation⟩ := h.root_or_below
  · rw [Json.inheriting_null] at hShown
    rw [hRoot] at hAt
    rw [← hShown]
    exact Option.some.inj hAt
  · rw [hRoot] at hLocation
    exact absurd (List.append_eq_nil_iff.mp hLocation.symm).2 passage.steps_ne_nil

theorem has_root_of_draw (hDraw : (draw .unlimited () ids (.obj root)).1 = .ok outline) :
    ∃ entry record, outline.Has 0 entry record ∧ record.location = [] := by
  obtain ⟨forest, hYields, hIds, rfl⟩ := exists_forest_of_draw (Prod.ext hDraw rfl)
  have hForest := hasForest_ofForest hIds
  cases hYields with
  | passed hValue => cases hValue
  | keptOut _ _ _ hJudge => cases hJudge
  | drawn =>
    obtain ⟨entry, hHas, -⟩ := hForest.tree.1
    exact ⟨entry, _, hHas, rfl⟩

theorem Drawn.exists_passage_of_mem_childList {n q : Nat} {child : Entry}
    {childRecord : Record} (h : Drawn .unlimited outline document n entry record shown inherited)
    (hChild : outline.Has q child childRecord) (hListed : (q : Int) ∈ entry.childList) :
    ∃ passages, listed? (target shown).2 = some passages ∧ ∃ passage ∈ passages,
      childRecord.location = record.location ++ throughItems (target shown).1 ++ passage.steps := by
  have hChildren := h.children_of_kind (h.kind_of_mem_childList hListed)
  cases hSome : entry.children with
  | none =>
    rw [Entry.childList, hSome] at hListed
    cases hListed
  | some indices =>
    rw [Entry.childList, hSome, Option.getD_some] at hListed
    rw [hSome, Option.map_some] at hChildren
    obtain ⟨passages, hPassages, hLocations⟩ := Option.map_eq_some_iff.mp hChildren.symm
    have hLocation : some childRecord.location ∈ indices.map outline.locationOf? := by
      rw [← locationOf?_of_has hChild]
      exact List.mem_map_of_mem hListed
    rw [← hLocations] at hLocation
    obtain ⟨passage, hPassage, hSame⟩ := List.mem_map.mp hLocation
    exact ⟨passages, hPassages, passage, hPassage, (Option.some.inj hSame).symm⟩

/-- A property of a document has an entry exactly if the document is an object by structure and no
reference, and the property is a fragment. -/
theorem shows_property_iff (hDocument : (Json.obj root).NoDuplicates)
    (hDraw : (draw .unlimited () ids (.obj root)).1 = .ok outline) :
    outline.Shows [.key "properties", .key name] ↔
      structuralKind root = .object ∧ isReference root = false ∧
        ∃ v, property? root name = some v ∧ v.members?.isSome := by
  constructor
  · rintro ⟨q, child, childRecord, hChild, hLocation⟩
    obtain ⟨_, _, _, hChildDrawn⟩ := exists_drawn_of_has hDocument hDraw hChild
    obtain ⟨hNil, -⟩ | ⟨p, count, above, aboveRecord, passage, hAbove, hParent, hBelow⟩ :=
      hChildDrawn.standsFor.root_or_below
    · rw [hLocation] at hNil
      cases hNil
    obtain ⟨_, shown, inherited, hDrawn⟩ := exists_drawn_of_has hDocument hDraw hAbove
    have hRoot : aboveRecord.location = [] := by
      have hLength := congrArg List.length (hLocation.symm.trans hBelow)
      have hSteps : passage.steps.length = 2 := by cases passage <;> rfl
      simp only [List.length_append, List.length_cons, List.length_nil, hSteps] at hLength
      exact List.length_eq_zero_iff.mp (by omega)
    obtain rfl : root = shown := Json.obj.inj (hDrawn.standsFor.document_of_root hRoot)
    have hMember := mem_childList_of_isParent hDraw hAbove.1 ⟨child, hChild.1, hParent⟩
    have hKind := hDrawn.kind_of_mem_childList hMember
    obtain ⟨passages, hListed, passage, hMem, hPassage⟩ :=
      hDrawn.exists_passage_of_mem_childList hChild hMember
    rw [hLocation, hRoot, List.nil_append] at hPassage
    obtain ⟨hCount, rfl⟩ := Passage.eq_property hPassage.symm
    rw [target_eq_self hCount] at hListed
    obtain ⟨hObject, hProperty⟩ := (property_listed_iff hDocument).mp ⟨passages, hListed, hMem⟩
    refine ⟨hObject, Bool.eq_false_iff.mpr fun hReference => hKind ?_, hProperty⟩
    have hNone := combiner?_eq_none_of_kind (by rw [hObject]; nofun)
    exact (Summary.kind_eq_reference_iff hDrawn.standsFor.summarised).mpr ⟨hNone, hReference⟩
  · rintro ⟨hKind, hReference, hProperty⟩
    obtain ⟨entry, record, hHas, hRoot⟩ := has_root_of_draw hDraw
    obtain ⟨_, shown, inherited, hDrawn⟩ := exists_drawn_of_has hDocument hDraw hHas
    obtain rfl : root = shown := Json.obj.inj (hDrawn.standsFor.document_of_root hRoot)
    have hSummary : record.summary.kind ≠ .reference := by
      rw [ne_eq, Summary.kind_eq_reference_iff hDrawn.standsFor.summarised, hReference]
      simp
    obtain ⟨passages, hListed, hMem⟩ := (property_listed_iff hDocument).mpr ⟨hKind, hProperty⟩
    have hTarget : target root = (0, root) := target_of_kind (by rw [hKind]; nofun)
    have hShows := hDrawn.shows_of_listed hSummary (by rwa [hTarget]) hMem
    rwa [hRoot, hTarget] at hShows

theorem property?_of_at? {members : Members} {branches : List Members} {position : Int} {v : Json}
    (hBranches : foldableBranches? (members.get "allOf") = some branches)
    (hAt : (Json.obj members).at? [.key "allOf", .index position, .key "properties", .key name] =
      some v) :
    ∃ branch ∈ branches, property? branch name = some v := by
  obtain ⟨hAllOf, -⟩ := foldableBranches?_eq_some_iff.mp hBranches
  rw [Json.at?_cons, Json.step?, Members.get?_of_get_eq_arr hAllOf, Option.bind_some] at hAt
  obtain ⟨part, hPart, hAt⟩ := Option.bind_eq_some_iff.mp hAt
  obtain ⟨list, hList, hAt⟩ := Option.bind_eq_some_iff.mp hAt
  obtain ⟨entry, hEntry, hEnd⟩ := Option.bind_eq_some_iff.mp hAt
  cases hEnd
  obtain ⟨items, hItems, -, hMem⟩ := Json.step?_index_eq_some_iff.mp hPart
  cases hItems
  obtain ⟨branch, hBranch, rfl⟩ := List.mem_map.mp (List.mem_of_getElem? hMem)
  obtain ⟨_, hSame, hGet⟩ := Json.step?_key_eq_some_iff.mp hList
  cases hSame
  obtain ⟨named, rfl, hName⟩ := Json.step?_key_eq_some_iff.mp hEntry
  refine ⟨branch, hBranch, ?_⟩
  rw [property?, Members.get, hGet]
  exact hName

/-- An outline of a document with an `allOf` that can be folded, and an outline of the folded
document. -/
structure DrawnBothWays (root : Members) (branches : List Members) (outline : Outline)
    (document : Json) (second : Outline) : Prop where
  names : (Json.obj root).NoDuplicates
  foldable : foldableBranches? (root.get "allOf") = some branches
  drawn : ∃ ids, (draw .unlimited () ids (.obj root)).1 = .ok outline
  folds : (Json.obj root).foldAllOf? = .ok document
  drawnFolded : ∃ ids, (draw .unlimited () ids document).1 = .ok second

/-- A property that is shown in a branch is declared by the folded document as well. It is a
fragment there if the first of the document and its folded branches to declare it declares a
fragment; and it is shown if so, and if the folded document is an object by structure and no
reference. -/
theorem shows_property_of_folded {branches : List Members} {second : Outline} {position : Int}
    (h : DrawnBothWays root branches outline document second)
    (hShows : outline.Shows [.key "allOf", .index position, .key "properties", .key name]) :
    ∃ merged first v, document = .obj merged ∧
      (root :: branches.map folded).findSome? (property? · name) = some first ∧
      property? merged name = some v ∧ v.members?.isSome = first.members?.isSome ∧
      (second.Shows [.key "properties", .key name] ↔
        structuralKind merged = .object ∧ isReference merged = false ∧ first.members?.isSome) := by
  obtain ⟨hNames, hBranches, ⟨ids, hDraw⟩, hFold, others, hFolded⟩ := h
  obtain ⟨_, entry, record, hHas, hLocation⟩ := hShows
  obtain ⟨_, _, _, hDrawn⟩ := exists_drawn_of_has hNames hDraw hHas
  obtain ⟨fragment, hAt, -⟩ := hDrawn.standsFor.leads.fragment
  rw [hLocation] at hAt
  obtain ⟨branch, hBranch, hDeclared⟩ := property?_of_at? hBranches hAt
  have hBranchNames := noDuplicates_of_foldable hNames hBranches branch hBranch
  have hKept : (property? (folded branch) name).isSome :=
    isSome_property?_folded hBranchNames (by rw [hDeclared]; rfl)
  have hFound : ((root :: branches.map folded).findSome? (property? · name)).isSome := by
    rw [List.findSome?_isSome_iff]
    exact ⟨_, List.mem_cons_of_mem _ (List.mem_map_of_mem hBranch), hKept⟩
  obtain ⟨first, hFirst⟩ := Option.isSome_iff_exists.mp hFound
  have hSame := property?_folded hNames hBranches name
  rw [hFirst, Option.map_some] at hSame
  obtain ⟨v, hProperty, hFragment⟩ := Option.map_eq_some_iff.mp hSame
  obtain rfl := Json.foldAllOf?_eq_ok hFold
  rw [foldAllOf_obj] at hFolded
  refine ⟨folded root, first, v, foldAllOf_obj root, hFirst, hProperty, hFragment, ?_⟩
  rw [shows_property_iff (noDuplicates_folded hNames) hFolded, hProperty, ← hFragment]
  simp

theorem exists_drawnBothWays {α β : Type} {f : Outline → α} {g : Outline → β} {a : α} {b : β}
    (hNames : (Json.obj root).NoDuplicates)
    (hFoldable : (foldableBranches? (root.get "allOf")).isSome)
    (hDraw : (draw .unlimited () (.numbered "n") (.obj root)).1.toOption.map f = some a)
    (hFolded : ((Json.obj root).foldAllOf?.bind fun document =>
      (draw .unlimited () (.numbered "u") document).1).toOption.map g = some b) :
    ∃ branches outline document second, DrawnBothWays root branches outline document second ∧
      f outline = a ∧ g second = b := by
  obtain ⟨branches, hBranches⟩ := Option.isSome_iff_exists.mp hFoldable
  obtain ⟨outline, hOutline, ha⟩ := exists_ok_of_map_toOption hDraw
  obtain ⟨second, hBoth, hb⟩ := exists_ok_of_map_toOption hFolded
  obtain ⟨document, hFold, hSecond⟩ := bind_eq_ok_iff.mp hBoth
  exact ⟨branches, outline, document, second,
    ⟨hNames, hBranches, ⟨_, hOutline⟩, hFold, _, hSecond⟩, ha, hb⟩

/-- A property in two branches, one of which is a combiner itself. -/
def nestedBranches : Members :=
  [("allOf", .arr [.obj [("properties", .obj [("a", .obj [("type", .str "object")])])],
    .obj [("allOf", .arr [.obj [("properties", .obj [("a", .obj [("items", .obj [])]),
      ("b", .obj [])])]])]])]

theorem shows_property_of_folded_nestedBranches :
    ∃ branches outline document second,
      DrawnBothWays nestedBranches branches outline document second ∧
      outline.Shows [.key "allOf", .index 0, .key "properties", .key "a"] ∧ second.size = 3 ∧
      ∃ merged first v, document = .obj merged ∧
        (nestedBranches :: branches.map folded).findSome? (property? · "a") = some first ∧
        property? merged "a" = some v ∧ v.members?.isSome = first.members?.isSome ∧
        (second.Shows [.key "properties", .key "a"] ↔
          structuralKind merged = .object ∧ isReference merged = false ∧
            first.members?.isSome) := by
  have hNames : (Json.obj nestedBranches).NoDuplicates := by
    simp [nestedBranches, Json.NoDuplicates, Json.NoDuplicatesInMembers, Json.NoDuplicatesInItems]
  have hLocation :
      (draw .unlimited () (.numbered "n") (.obj nestedBranches)).1.toOption.map (·.locationOf? 2) =
        some (some [.key "allOf", .index 0, .key "properties", .key "a"]) := by
    decide +kernel
  have hSize : ((Json.obj nestedBranches).foldAllOf?.bind fun document =>
      (draw .unlimited () (.numbered "u") document).1).toOption.map (·.size) = some 3 := by
    decide +kernel
  obtain ⟨branches, outline, document, second, hBoth, hThird, hThree⟩ :=
    exists_drawnBothWays hNames (by decide +kernel) hLocation hSize
  have hShows := shows_of_locationOf? hThird
  exact ⟨branches, outline, document, second, hBoth, hShows, hThree,
    shows_property_of_folded hBoth hShows⟩

/-- Folding hides a property that is shown in a branch. -/
def HidesProperty (root : Members) (position : Int) (name : String) : Prop :=
  ∃ branches outline document second, DrawnBothWays root branches outline document second ∧
    outline.Shows [.key "allOf", .index position, .key "properties", .key name] ∧
    ¬ second.Shows [.key "properties", .key name]

theorem hidesProperty_of_locations {position i : Int} {locations : List Location}
    (hNames : (Json.obj root).NoDuplicates)
    (hFoldable : (foldableBranches? (root.get "allOf")).isSome)
    (hDraw : (draw .unlimited () (.numbered "n") (.obj root)).1.toOption.map
      (·.locationOf? i) =
        some (some [.key "allOf", .index position, .key "properties", .key name]))
    (hFolded : ((Json.obj root).foldAllOf?.bind fun document =>
      (draw .unlimited () (.numbered "u") document).1).toOption.map
        (·.records.map (·.2.location)) = some locations)
    (hHidden : [.key "properties", .key name] ∉ locations) : HidesProperty root position name := by
  obtain ⟨branches, outline, document, second, hBoth, hLocation, rfl⟩ :=
    exists_drawnBothWays hNames hFoldable hDraw hFolded
  refine ⟨branches, outline, document, second, hBoth, shows_of_locationOf? hLocation, ?_⟩
  exact fun hShows => hHidden (mem_locations_of_shows hShows)

/-- A property in one branch, and a combiner as the other one. -/
def besideCombiner : Members :=
  [("allOf", .arr [.obj [("properties", .obj [("a", .obj [])])],
    .obj [("anyOf", .arr [.obj []])]])]

/-- A property that is no fragment in the first branch, but one in the second. -/
def behindNumber : Members :=
  [("allOf", .arr [.obj [("properties", .obj [("a", .int 5)])],
    .obj [("properties", .obj [("a", .obj [])])]])]

/-- Folding can hide a property: branches of its own make the folded document a combiner, and what
is no fragment prevails where it is declared first. -/
theorem hidesProperty_of_folding :
    HidesProperty besideCombiner 0 "a" ∧ HidesProperty behindNumber 1 "a" := by
  constructor
  · have hNames : (Json.obj besideCombiner).NoDuplicates := by
      simp [besideCombiner, Json.NoDuplicates, Json.NoDuplicatesInMembers,
        Json.NoDuplicatesInItems]
    exact hidesProperty_of_locations (i := 2) hNames (by decide +kernel) (by decide +kernel)
      (by decide +kernel : _ = some [[], [.key "anyOf", .index 0]]) (by decide)
  · have hNames : (Json.obj behindNumber).NoDuplicates := by
      simp [behindNumber, Json.NoDuplicates, Json.NoDuplicatesInMembers,
        Json.NoDuplicatesInItems]
    exact hidesProperty_of_locations (i := 3) hNames (by decide +kernel) (by decide +kernel)
      (by decide +kernel : _ = some [[]]) (by decide)

end Outline

end SchemaOutline
