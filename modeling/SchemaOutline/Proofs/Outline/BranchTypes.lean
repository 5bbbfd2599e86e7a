import SchemaOutline.Proofs.Fragment.Typing
import SchemaOutline.Proofs.Outline.Reference

/-!
# The types of branches

A branch without a type of its own has the type of its combiner in its summary, and hands it on to
its own branches if it is a combiner. The type gets there on one of two ways: it is set on the
branch, or it is noted for a reference, which stays as it is written. A branch that names a target
and is a combiner as well is passed over on the first way because it reads like a reference, and on
the second because it is summarised as a combiner (`type_of_draw_forkedReference`). These are the
only branches that are left without the type (`type_of_branch_of_draw`).
-/

set_option autoImplicit false

namespace SchemaOutline

namespace TypeName

theorem mapM_text?_map_str (names : List String) :
    (names.map Json.str).mapM Json.text? = some names := by
  have hTexts : (names.map Json.str).mapM Json.text? = some (names.map id) :=
    mapM_map_eq_some fun name _ => rfl
  rw [hTexts, List.map_id]

theorem ofJson?_toJson (type : TypeName) : ofJson? type.toJson = some type := by
  cases type with
  | one name => rfl
  | several names => rw [toJson, ofJson?, mapM_text?_map_str, Option.map_some]

theorem toJson_ne_null (type : TypeName) : type.toJson ≠ .null := by
  cases type <;> nofun

end TypeName

namespace Summary

variable {id : String} {fragment branch shown : Members} {inherited : Json} {summary : Summary}
  {type : TypeName}

/-- A type that is declared is the recorded one, whatever kind the fragment is of. -/
theorem type_of_declared (h : ofFragment id fragment inherited = .ok summary)
    (hType : fragment.get? "type" = some type.toJson) : summary.type = some type := by
  have hDeclared (implied : Option TypeName) :
      typeOf (fragment.get "type") implied = some type := by
    rw [Members.get, hType, Option.getD_some, typeOf, TypeName.ofJson?_toJson]
    rfl
  have hReference : Fragment.isReference fragment = false := by
    simp [Fragment.isReference, Members.has, hType]
  unfold ofFragment at h
  simp only [hDeclared, hReference, Bool.false_eq_true, if_false] at h
  split at h
  · cases h
    rfl
  · split at h
    · cases h
      rfl
    · obtain ⟨required, -, h⟩ := bind_eq_ok_iff.mp h
      cases h
      rfl
    · cases h
      rfl

/-- A branch without a type has the type of its combiner, unless it is a combiner that reads like a
reference. -/
theorem type_of_inheriting (h : ofFragment id shown type.toJson = .ok summary)
    (hShown : (Json.obj branch).inheriting type.toJson = .obj shown)
    (hNone : branch.has "type" = false) :
    summary.type =
      if (Fragment.combiner? branch).isSome && Fragment.isReference branch then none
      else some type := by
  have hUndeclared : branch.get "type" = .null := Members.get_of_has_eq_false hNone
  cases hReference : Fragment.isReference branch with
  | false =>
    rw [Json.inheriting_of_takes type.toJson_ne_null (by rw [hUndeclared]; rfl) hReference]
      at hShown
    cases hShown
    rw [Bool.and_false, if_neg Bool.false_ne_true]
    apply type_of_declared h
    rw [Members.get?_set, if_pos rfl]
  | true =>
    rw [Json.inheriting_of_declines (.inr hReference)] at hShown
    cases hShown
    unfold ofFragment at h
    rw [hReference] at h
    cases hCombiner : Fragment.combiner? branch with
    | some c =>
      rw [hCombiner, hUndeclared] at h
      cases h
      rfl
    | none =>
      rw [hCombiner] at h
      cases h
      simp [typeOf, TypeName.ofJson?_toJson]

end Summary

/-! ### Children and what they were expanded from -/

namespace Yields

variable {σ : Type} {gate : Gate σ}

/-- Every tree that is yielded comes of one of the descents. -/
theorem exists_descent {room : Nat} {above : Option String} {level : Int} {location : Location}
    {descents : List Descent} {stock stock' : Stock σ} {forest : Forest}
    (h : Yields gate room above level location descents stock forest stock') {record : Record}
    (hMem : record ∈ forest.topRecords) :
    ∃ descent ∈ descents, ∃ fragment, descent.value = .obj fragment ∧
      record.location = location ++ descent.steps ∧
      Summary.ofFragment record.summary.id fragment descent.inherited = .ok record.summary := by
  induction h with
  | done => cases hMem
  | passed _ _ ih | keptOut _ _ _ _ _ ih =>
    obtain ⟨descent, hDescent, hRest⟩ := ih hMem
    exact ⟨descent, List.mem_cons_of_mem _ hDescent, hRest⟩
  | drawn hValue hSummary _ _ _ _ _ _ ihRest =>
    rcases List.mem_cons.mp hMem with rfl | hBeside
    · refine ⟨_, List.mem_cons_self, _, hValue, rfl, ?_⟩
      rw [Summary.id_of_ofFragment hSummary]
      exact hSummary
    · obtain ⟨descent, hDescent, hRest⟩ := ihRest hBeside
      exact ⟨descent, List.mem_cons_of_mem _ hDescent, hRest⟩

end Yields

namespace Outline

variable {σ : Type} {gate : Gate σ} {outline : Outline} {document : Json} {p q : Nat}
  {entry above : Entry} {record aboveRecord : Record} {shown : Members} {inherited : Json}

theorem HasForest.exists_topRecord {n : Nat} {parent : Option Nat} {level : Int} {forest : Forest}
    (h : outline.HasForest n parent level forest) (hMem : q ∈ forest.tops n) :
    ∃ record ∈ forest.topRecords, ∃ entry, outline.Has q entry record := by
  induction forest generalizing n with
  | bare => cases hMem
  | tree record expandable below beside _ ihBeside =>
    obtain ⟨⟨entry, hHas, -⟩, -, hBeside⟩ := h.tree
    rcases List.mem_cons.mp hMem with rfl | hRest
    · exact ⟨record, List.mem_cons_self, entry, hHas⟩
    · obtain ⟨other, hOther, hFound⟩ := ihBeside hBeside hRest
      exact ⟨other, List.mem_cons_of_mem _ hOther, hFound⟩

/-- A child was summarised from one of the descents that its parent was expanded into. -/
theorem Drawn.exists_descent
    (h : Drawn gate outline document p above aboveRecord shown inherited)
    (hHas : outline.Has q entry record) (hChild : (q : Int) ∈ above.childList) :
    ∃ room expansion, Expansion.ofSummary room aboveRecord.summary = .ok expansion ∧
      ∃ descent ∈ expansion.descents, ∃ fragment, descent.value = .obj fragment ∧
        record.location = aboveRecord.location ++ descent.steps ∧
        Summary.ofFragment record.summary.id fragment descent.inherited = .ok record.summary := by
  obtain ⟨room, expansion, _, _, forest, hExpansion, hYields, hForest, hExpanded, hLeaf⟩ := h.below
  refine ⟨room, expansion, hExpansion, ?_⟩
  have hTop : q ∈ forest.tops (p + 1) := by
    cases hExpandable : expansion.expandable with
    | true =>
      rw [Entry.childList, hExpanded hExpandable] at hChild
      obtain ⟨position, hMem, hSame⟩ := List.mem_map.mp hChild
      rwa [← Int.ofNat_inj.mp hSame]
    | false =>
      -- What cannot be expanded has no descents, so nothing was yielded below it.
      rw [Expansion.descents_of_not_expandable h.standsFor.summarised hExpansion hExpandable]
        at hYields
      rw [Entry.childList, hLeaf hExpandable hYields.eq_bare] at hChild
      cases hChild
  obtain ⟨found, hFound, other, hOther⟩ := hForest.exists_topRecord hTop
  have hSame : found = record := by
    have hEntry : other = entry := Option.some.inj (hOther.1.symm.trans hHas.1)
    rw [hEntry] at hOther
    exact Option.some.inj (hOther.2.symm.trans hHas.2)
  exact hYields.exists_descent (hSame ▸ hFound)

/-- A combiner with a type is listed, and below it a branch that declares none. -/
structure ListsUntyped (outline : Outline) (document : Json) (type : TypeName) (branch : Members)
    (record : Record) : Prop where
  below : ∃ p q above aboveRecord entry, outline.Has p above aboveRecord ∧
    aboveRecord.summary.kind = .combiner ∧ aboveRecord.summary.type = some type ∧
    outline.Has q entry record ∧ (q : Int) ∈ above.childList
  written : document.at? record.location = some (.obj branch)
  untyped : branch.has "type" = false

variable {type : TypeName} {branch : Members}

/-- A branch that declares no type is recorded with the type of its combiner, whatever kind of
fragment it is, unless it reads like a reference and is a combiner: then no type is recorded. -/
theorem type_of_branch_of_draw (hDocument : document.NoDuplicates) {start : σ} {ids : IdSource}
    (hDraw : (draw gate start ids document).1 = .ok outline)
    (hBranch : outline.ListsUntyped document type branch record) :
    record.summary.type =
      if (Fragment.combiner? branch).isSome && Fragment.isReference branch then none
      else some type := by
  obtain ⟨⟨p, q, above, aboveRecord, entry, hAbove, hKind, hType, hHas, hChild⟩, hWritten,
    hUntyped⟩ := hBranch
  obtain ⟨_, _, _, hDrawn⟩ := exists_drawn_of_has hDocument hDraw hAbove
  obtain ⟨room, expansion, hExpansion, descent, hMem, shown, hValue, hLocation, hSummary⟩ :=
    hDrawn.exists_descent hHas hChild
  have hInherited : descent.inherited = type.toJson := by
    cases hShape : aboveRecord.summary.shape with
    | combiner c branches =>
      rw [Expansion.ofSummary, hShape] at hExpansion
      cases hExpansion
      obtain ⟨_, -, rfl⟩ := List.mem_map.mp hMem
      simp [Summary.typeValue, hType]
    | _ =>
      rw [Summary.kind, hShape] at hKind
      cases hKind
  have hLeads := leads_of_mem_descents hDocument hDrawn.has hDrawn.standsFor hExpansion hMem hValue
  obtain ⟨fragment, hAt, hShown⟩ := hLeads.fragment
  rw [← hLocation, hWritten] at hAt
  cases hAt
  rw [hInherited] at hSummary hShown
  exact Summary.type_of_inheriting hSummary hShown hUntyped

def row? (outline : Outline) (p : Nat) : Option (Entry × Record) := do
  let entry ← outline.entries[p]?
  let record ← outline.record? entry.id
  return (entry, record)

theorem has_of_row? (h : outline.row? p = some (entry, record)) : outline.Has p entry record := by
  obtain ⟨found, hEntry, h⟩ := Option.bind_eq_some_iff.mp h
  obtain ⟨_, hRecord, h⟩ := Option.bind_eq_some_iff.mp h
  cases h
  exact ⟨hEntry, hRecord⟩

def branchFacts (row : Entry × Record) : Location × Option TypeName :=
  (row.2.location, row.2.summary.type)

def combinerFacts (q : Nat) (row : Entry × Record) : Bool × Kind × Option TypeName :=
  (row.1.childList.contains (q : Int), row.2.summary.kind, row.2.summary.type)

theorem exists_listsUntyped {ids : IdSource} {location : Location} {found : Option TypeName}
    (hAbove : (draw .unlimited () ids document).1.toOption.map
      (fun outline => (outline.row? p).map (combinerFacts q)) =
        some (some (true, .combiner, some type)))
    (hBelow : (draw .unlimited () ids document).1.toOption.map
      (fun outline => (outline.row? q).map branchFacts) = some (some (location, found)))
    (hWritten : document.at? location = some (.obj branch))
    (hUntyped : branch.has "type" = false) :
    ∃ outline record, (draw .unlimited () ids document).1 = .ok outline ∧
      outline.ListsUntyped document type branch record ∧ record.summary.type = found := by
  obtain ⟨outline, hDraw, hAbove⟩ := exists_ok_of_map_toOption hAbove
  rw [hDraw] at hBelow
  obtain ⟨⟨above, aboveRecord⟩, hAboveRow, hAboveFacts⟩ := Option.map_eq_some_iff.mp hAbove
  obtain ⟨⟨entry, record⟩, hRow, hFacts⟩ := Option.map_eq_some_iff.mp (Option.some.inj hBelow)
  simp only [combinerFacts, branchFacts, Prod.mk.injEq, List.contains_iff_mem]
    at hAboveFacts hFacts
  obtain ⟨hChild, hKind, hType⟩ := hAboveFacts
  obtain ⟨rfl, rfl⟩ := hFacts
  refine ⟨outline, record, hDraw, ⟨?_, hWritten, hUntyped⟩, rfl⟩
  exact ⟨p, q, above, aboveRecord, entry, has_of_row? hAboveRow, hKind, hType, has_of_row? hRow,
    hChild⟩

/-- A combiner below a combiner, with an array as its branch. -/
def nestedCombiners : Json :=
  .obj [("type", .str "object"), ("oneOf", .arr [.obj [("$ref", .str "#/a")],
    .obj [("allOf", .arr [.obj [("items", .obj [])]])]])]

/-- The array has the type of the outermost combiner. -/
theorem type_of_branch_of_draw_nestedCombiners :
    nestedCombiners.NoDuplicates ∧ ∃ outline record,
      (draw .unlimited () (.numbered "n") nestedCombiners).1 = .ok outline ∧
      outline.ListsUntyped nestedCombiners (.one "object") [("items", .obj [])] record ∧
      record.summary.type = some (.one "object") := by
  have hNames : nestedCombiners.NoDuplicates := by
    simp [nestedCombiners, Json.NoDuplicates, Json.NoDuplicatesInMembers, Json.NoDuplicatesInItems]
  have hAbove : (draw .unlimited () (.numbered "n") nestedCombiners).1.toOption.map
      (fun outline => (outline.row? 2).map (combinerFacts 3)) =
        some (some (true, .combiner, some (.one "object"))) := by
    decide +kernel
  have hBelow : (draw .unlimited () (.numbered "n") nestedCombiners).1.toOption.map
      (fun outline => (outline.row? 3).map branchFacts) =
        some (some ([.key "oneOf", .index 1, .key "allOf", .index 0], some (.one "object"))) := by
    decide +kernel
  obtain ⟨outline, record, hDraw, hBranch, -⟩ := exists_listsUntyped hAbove hBelow rfl rfl
  refine ⟨hNames, outline, record, hDraw, hBranch, ?_⟩
  exact type_of_branch_of_draw hNames hDraw hBranch

/-- A branch that reads like a reference and is a combiner. -/
def forkedReference : Json :=
  .obj [("type", .str "string"),
    ("anyOf", .arr [.obj [("$ref", .str "#/a"), ("oneOf", .arr [])]])]

/-- The type of a combiner does not reach every branch that declares none. -/
theorem type_of_draw_forkedReference :
    ∃ outline type branch record,
      (draw .unlimited () (.numbered "n") forkedReference).1 = .ok outline ∧
      outline.ListsUntyped forkedReference type branch record ∧
      record.summary.type ≠ some type := by
  have hAbove : (draw .unlimited () (.numbered "n") forkedReference).1.toOption.map
      (fun outline => (outline.row? 0).map (combinerFacts 1)) =
        some (some (true, .combiner, some (.one "string"))) := by
    decide +kernel
  have hBelow : (draw .unlimited () (.numbered "n") forkedReference).1.toOption.map
      (fun outline => (outline.row? 1).map branchFacts) =
        some (some ([.key "anyOf", .index 0], none)) := by
    decide +kernel
  obtain ⟨outline, record, hDraw, hBranch, hType⟩ := exists_listsUntyped hAbove hBelow rfl rfl
  refine ⟨outline, _, _, record, hDraw, hBranch, ?_⟩
  rw [hType]
  nofun

end Outline

end SchemaOutline
