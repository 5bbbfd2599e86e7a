import SchemaOutline.Proofs.Outline.Interrupted
import SchemaOutline.Proofs.Outline.Shallow

/-!
# Which documents can be drawn

Keyword values of the wrong form are left out of a summary, with one exception: an object whose
`required` lists something other than texts is refused (`Fragment.IsUnfit`). Drawing a document
comes to some of its fragments (`Json.ComesTo`), and of a document that nests within the limit this
is all that can go wrong: it is drawn if no fragment come to is unfit, and otherwise refused for one
that is (`Outline.draw_or_refuse`).
-/

set_option autoImplicit false

namespace SchemaOutline

namespace Fragment

/-- The fragment is summarised as an object, and something that it lists as required is no text. -/
structure IsUnfit (fragment : Members) : Prop where
  object : structuralKind fragment = .object
  own : isReference fragment = false
  required : ∃ items, fragment.get "required" = .arr items ∧ ∃ item ∈ items, item.text? = none

/-- How an unfit fragment is refused: the items of `required` that are no texts are the faults. -/
def refusal (fragment : Members) : Failure :=
  .refused .objectSummary (Summary.textFaults ((fragment.get "required").items?.getD []))

/-- The type that the branches of the target take over. That of the fragment's own entry is the
recorded one, which is missing where the declared one is no name. -/
def lent (fragment : Members) : Json :=
  if (target fragment).1 = 0 then
    ((TypeName.ofJson? (fragment.get "type")).map TypeName.toJson).getD .null
  else (target fragment).2.get "type"

/-- The values that are drawn below the entry of a fragment: none below a reference, and otherwise
the parts of its target. -/
def drawnBelow (fragment : Members) : List Json :=
  if combiner? fragment = none ∧ isReference fragment = true then []
  else (Expansion.ofParts (throughItems (target fragment).1) (target fragment).2
    (lent fragment)).values

end Fragment

/-- Drawing a value without a limit comes to a fragment. -/
inductive Json.ComesTo : Json → Members → Prop where
  | self {fragment : Members} : ComesTo (.obj fragment) fragment
  | listed {above fragment : Members} {v : Json} (hBelow : v ∈ Fragment.drawnBelow above)
      (h : ComesTo v fragment) : ComesTo (.obj above) fragment

theorem Json.comesTo_obj_iff {fragment found : Members} :
    (Json.obj fragment).ComesTo found ↔
      found = fragment ∨ ∃ v ∈ Fragment.drawnBelow fragment, v.ComesTo found := by
  constructor
  · rintro (_ | ⟨hBelow, hComes⟩)
    · exact .inl rfl
    · exact .inr ⟨_, hBelow, hComes⟩
  · rintro (rfl | ⟨v, hBelow, hComes⟩)
    · exact .self
    · exact .listed hBelow hComes

namespace Summary

open Fragment

theorem requiredOf_cases (fragment : Members) :
    (∃ required, requiredOf fragment = .ok required) ∧
      (∀ items, fragment.get "required" = .arr items → ∀ item ∈ items, item.text? ≠ none) ∨
    requiredOf fragment = .error (refusal fragment) ∧
      ∃ items, fragment.get "required" = .arr items ∧ ∃ item ∈ items, item.text? = none := by
  unfold requiredOf refusal
  cases hRequired : fragment.get "required" with
  | arr items =>
    cases hNames : items.mapM Json.text? with
    | some names =>
      refine .inl ⟨⟨some names, ?_⟩, ?_⟩
      · simp only [hNames]
      rintro _ ⟨⟩ item hMem hNone
      rw [mapM_eq_none_iff.mpr ⟨item, hMem, hNone⟩] at hNames
      cases hNames
    | none =>
      obtain ⟨item, hMem, hNone⟩ := mapM_eq_none_iff.mp hNames
      refine .inr ⟨?_, items, rfl, item, hMem, hNone⟩
      simp only [hNames]
      rfl
  | _ => exact .inl ⟨⟨none, rfl⟩, nofun⟩

/-- Every fragment has a summary unless it is unfit for one. -/
theorem ofFragment_cases (id : String) (fragment : Members) (inherited : Json) :
    (¬ IsUnfit fragment ∧ ∃ summary, ofFragment id fragment inherited = .ok summary) ∨
    IsUnfit fragment ∧ ofFragment id fragment inherited = .error (refusal fragment) := by
  unfold ofFragment
  cases hCombiner : combiner? fragment with
  | some c =>
    refine .inl ⟨?_, _, rfl⟩
    intro hUnfit
    have hKind := kind_of_combiner? hCombiner
    rw [hUnfit.object] at hKind
    cases hKind
  | none =>
    cases hReference : isReference fragment with
    | true =>
      refine .inl ⟨?_, _, rfl⟩
      intro hUnfit
      rw [hUnfit.own] at hReference
      cases hReference
    | false =>
      cases hKind : structuralKind fragment with
      | object =>
        obtain ⟨⟨required, hOk⟩, hFit⟩ | ⟨hError, hRequired⟩ := requiredOf_cases fragment
        · refine .inl ⟨?_, _, by rw [hOk]; rfl⟩
          intro hUnfit
          obtain ⟨items, hItems, item, hMem, hNone⟩ := hUnfit.required
          exact hFit items hItems item hMem hNone
        · refine .inr ⟨⟨hKind, hReference, hRequired⟩, ?_⟩
          rw [hError]
          rfl
      | array | combiner | reference | scalar =>
        refine .inl ⟨?_, _, rfl⟩
        intro hUnfit
        rw [hUnfit.object] at hKind
        cases hKind

end Summary

namespace Expansion

open Fragment

variable {id : String} {fragment : Members} {inherited : Json} {summary : Summary} {room : Nat}
  {expansion : Expansion}

/-- What the expansion of a summary lists is what is drawn below the fragment. -/
theorem values_of_ofSummary (hSummary : Summary.ofFragment id fragment inherited = .ok summary)
    (hExpansion : ofSummary room summary = .ok expansion) :
    expansion.values = drawnBelow fragment := by
  unfold drawnBelow
  have hReference := Summary.kind_eq_reference_iff hSummary
  obtain ⟨reference, hShape, rfl⟩ | ⟨hKind, rfl⟩ := ofSummary_cases hSummary hExpansion
  · rw [if_pos (hReference.mp (by rw [Summary.kind, hShape]; rfl))]
    rfl
  · rw [if_neg fun h => hKind (hReference.mpr h), lent, typeBelow]
    split
    · rename_i hCount
      rw [target_eq_self hCount]
      obtain ⟨_, -, -, hType⟩ | ⟨hNone, -⟩ | ⟨hNone, -⟩ := Summary.shape_of_ofFragment hSummary
      · rw [Summary.typeValue, hType]
        cases TypeName.ofJson? (fragment.get "type") <;> rfl
      · rw [ofParts_of_combiner?_eq_none _ _ hNone]
      · rw [ofParts_of_combiner?_eq_none _ _ hNone]
    · rfl

/-- With room for a fragment its summary can be expanded, and there is room for all that is listed
below it. -/
theorem exists_ofSummary_of_shallow (h : (Json.obj fragment).Shallow (room + callsPerEntry))
    (hSummary : Summary.ofFragment id fragment inherited = .ok summary) :
    ∃ expansion, ofSummary room summary = .ok expansion ∧
      ∀ v ∈ expansion.values, v.Shallow (expansion.roomBelow room) := by
  obtain ⟨found, hHeld, hValues⟩ := exists_held_of_shallow h
  obtain ⟨c, hCombiner, hShape, -⟩ | ⟨-, -, target, hShape⟩ | ⟨hCombiner, hReference, hShape⟩ :=
    Summary.shape_of_ofFragment hSummary
  · refine ⟨_, by rw [ofSummary, hShape], ?_⟩
    rw [values_ofBranches]
    intro v hMem
    obtain ⟨branch, hBranch, rfl⟩ := List.mem_map.mp hMem
    apply Json.Shallow.inheriting
    apply h.of_mem_parts
    exact mem_parts_iff.mpr (.inl ⟨c.keyword, by cases c <;> decide, hBranch⟩)
  · refine ⟨_, by rw [ofSummary, hShape], ?_⟩
    intro v hMem
    cases hMem
  · have hExists : ∃ expansion, ofSummary room summary = .ok expansion := by
      unfold ofSummary
      cases hKind : structuralKind fragment with
      | array =>
        rw [hKind] at hShape
        obtain ⟨hRoom, -⟩ := h.target
        rw [hShape]
        exact ⟨_, (ofItems_eq_ite hKind room []).trans (if_pos hRoom)⟩
      | object =>
        rw [hKind] at hShape
        obtain ⟨_, _, hShape⟩ := hShape
        exact ⟨_, by rw [hShape]⟩
      | combiner | reference | scalar =>
        rw [hKind] at hShape
        exact ⟨_, by rw [hShape]⟩
    obtain ⟨expansion, hExpansion⟩ := hExists
    have hSame := held_of_summary hSummary hExpansion hCombiner hReference
    rw [hHeld] at hSame
    cases hSame
    exact ⟨expansion, hExpansion, hValues⟩

end Expansion

namespace Growth

variable {g : Growth Unit} {parent : Option Nat} {level : Int}

/-- Either every fragment that growth comes to is fit and the growth succeeds, or it fails with the
refusal of an unfit one. -/
def IsJudged (comesTo : Members → Prop) (result : Except Failure Unit) : Prop :=
  (∀ fragment, comesTo fragment → ¬ Fragment.IsUnfit fragment) ∧ result = .ok () ∨
  ∃ fragment, comesTo fragment ∧ Fragment.IsUnfit fragment ∧
    result = .error (Fragment.refusal fragment)

theorem exists_plants_visit {σ : Type} {g : Growth σ} (gate : Gate σ) (room : Nat)
    {parent : Option Nat} {level : Int} {location : Location} {v inherited : Json}
    (hIds : Function.Injective g.ids.nth) (hKeys : g.outline.KeyedBy g.ids)
    (hParent : g.outline.HasParent parent) :
    ∃ forest, Plants g parent level forest
      (outcome (visit gate room (parent.map Nat.cast) level location v inherited) g).2 := by
  rw [← visitAsking_inquiry]
  obtain ⟨forest, -, hPlants⟩ := exists_plants_visitAsking gate.inquiry room hIds hKeys hParent
  exact ⟨forest, hPlants⟩

/-- If every visit of a value is judged, so are the visits of all descents together. -/
theorem visitAll_judged {room : Nat} {location : Location} {descents : List Descent}
    (hVisit : ∀ descent ∈ descents, ∀ g : Growth Unit, Function.Injective g.ids.nth →
      g.outline.KeyedBy g.ids → g.outline.HasParent parent →
      IsJudged descent.value.ComesTo (outcome (visit .unlimited room (parent.map Nat.cast) level
        (location ++ descent.steps) descent.value descent.inherited) g).1)
    (hIds : Function.Injective g.ids.nth) (hKeys : g.outline.KeyedBy g.ids)
    (hParent : g.outline.HasParent parent) :
    IsJudged (fun fragment => ∃ descent ∈ descents, descent.value.ComesTo fragment)
      (outcome (visitAll .unlimited room parent level location descents) g).1 := by
  induction descents generalizing g with
  | nil => exact .inl ⟨fun _ ⟨_, hMem, _⟩ => absurd hMem List.not_mem_nil, rfl⟩
  | cons descent rest ih =>
    have hFirst := hVisit descent List.mem_cons_self g hIds hKeys hParent
    obtain ⟨first, hPlants⟩ := @exists_plants_visit _ _ .unlimited room parent level
      (location ++ descent.steps) descent.value descent.inherited hIds hKeys hParent
    have hCons : visitAll .unlimited room parent level location (descent :: rest) =
        (visit .unlimited room (parent.map Nat.cast) level (location ++ descent.steps)
          descent.value descent.inherited >>= fun _ =>
            visitAll .unlimited room parent level location rest) := rfl
    rw [hCons, outcome_bind]
    rcases hOutcome : outcome (visit .unlimited room (parent.map Nat.cast) level
      (location ++ descent.steps) descent.value descent.inherited) g with ⟨result, mid⟩
    rw [hOutcome] at hFirst hPlants
    obtain ⟨hFit, rfl⟩ | ⟨fragment, hComes, hUnfit, rfl⟩ := hFirst
    · have hParentMid : mid.outline.HasParent parent := by
        rw [hPlants.outline]
        exact hParent.plant _ _ _
      obtain ⟨hRest, hOk⟩ | ⟨fragment, ⟨other, hMem, hComes⟩, hRest⟩ :=
        ih (fun other hMem => hVisit other (List.mem_cons_of_mem _ hMem)) (hPlants.nth ▸ hIds)
          hPlants.keys hParentMid
      · refine .inl ⟨?_, hOk⟩
        rintro fragment ⟨other, hMem, hComes⟩
        rcases List.mem_cons.mp hMem with rfl | hMem
        · exact hFit fragment hComes
        · exact hRest fragment ⟨other, hMem, hComes⟩
      · exact .inr ⟨fragment, ⟨other, List.mem_cons_of_mem _ hMem, hComes⟩, hRest⟩
    · exact .inr ⟨fragment, ⟨descent, List.mem_cons_self, hComes⟩, hUnfit, rfl⟩

/-- A visit without a limit, with room for the value and identifiers that never repeat. -/
theorem visit_judged {room : Nat} {location : Location} {v inherited : Json}
    (hRoom : v.Shallow room) (hIds : Function.Injective g.ids.nth)
    (hKeys : g.outline.KeyedBy g.ids) (hParent : g.outline.HasParent parent) :
    IsJudged v.ComesTo
      (outcome (visit .unlimited room (parent.map Nat.cast) level location v inherited) g).1 := by
  induction room using Nat.strongRecOn generalizing g parent level location v inherited with
  | ind room ih =>
    cases v with
    | obj fragment =>
      obtain ⟨room, rfl⟩ := Nat.exists_eq_add_of_le' hRoom.entry
      obtain ⟨hFit, summary, hSummary⟩ | ⟨hUnfit, hRefused⟩ :=
        Summary.ofFragment_cases g.ids.peek fragment inherited
      · have hId : summary.id = g.ids.peek := Summary.id_of_ofFragment hSummary
        obtain ⟨expansion, hExpansion, hShallow⟩ :=
          Expansion.exists_ofSummary_of_shallow hRoom hSummary
        have hBelow : IsJudged
            (fun found => ∃ descent ∈ expansion.descents, descent.value.ComesTo found)
            (outcome (visitAll .unlimited (expansion.roomBelow room) (some g.outline.size)
              (level + 1) location expansion.descents) ⟨g.outline.stand parent level
                ⟨summary, location⟩ expansion.expandable, g.ids.next, ()⟩).1 := by
          have hLess : expansion.roomBelow room < room + callsPerEntry :=
            Nat.lt_of_le_of_lt (expansion.roomBelow_le room) (Nat.lt_add_of_pos_right (by decide))
          exact visitAll_judged
            (fun _ hMem _ => ih _ hLess (hShallow _ (List.mem_map_of_mem hMem))) hIds
            (hKeys.stand hId parent level _) (Outline.hasParent_stand _ _ _ _ _)
        have hComesTo : ∀ found, (Json.obj fragment).ComesTo found ↔
            found = fragment ∨ ∃ descent ∈ expansion.descents, descent.value.ComesTo found := by
          intro found
          rw [Json.comesTo_obj_iff, ← Expansion.values_of_ofSummary hSummary hExpansion]
          simp [Expansion.values]
        rw [outcome_visit_of_ok hParent hSummary rfl (hId ▸ hKeys.record?_peek hIds) hExpansion]
        obtain ⟨hRest, hOk⟩ | ⟨found, hComes, hRest⟩ := hBelow
        · refine .inl ⟨?_, hOk⟩
          intro found hComes
          obtain rfl | hComes := (hComesTo found).mp hComes
          · exact hFit
          · exact hRest found hComes
        · exact .inr ⟨found, (hComesTo found).mpr (.inr hComes), hRest⟩
      · refine .inr ⟨fragment, .self, hUnfit, ?_⟩
        rw [visit_obj, (reaches_above_iff.mpr ⟨rfl, hParent.isSome, rfl⟩).outcome_bind,
          (reaches_freshId_iff.mpr ⟨rfl, rfl⟩).outcome_bind, outcome_bind, hRefused]
        rfl
    | _ =>
      rw [visit_of_members?_eq_none rfl]
      refine .inl ⟨?_, rfl⟩
      intro fragment hComes
      cases hComes

end Growth

namespace Outline

open Fragment

variable {document : Json} {ids : IdSource}

/-- A document that nests within the limit is drawn, however its keyword values are formed, unless
drawing it comes to an unfit fragment; then it is refused for such a fragment. -/
theorem draw_or_refuse (hDepth : document.depth < nestingLimit)
    (hIds : Function.Injective ids.nth) :
    ((∀ fragment, document.ComesTo fragment → ¬ IsUnfit fragment) ∧
      ∃ outline, (draw .unlimited () ids document).1 = .ok outline) ∨
    ∃ fragment, document.ComesTo fragment ∧ IsUnfit fragment ∧
      (draw .unlimited () ids document).1 = .error (refusal fragment) := by
  have hJudged : Growth.IsJudged document.ComesTo
      (Growth.growWithin callLimit .unlimited ⟨empty, ids, ()⟩ none 0 [] document).1 :=
    @Growth.visit_judged ⟨empty, ids, ()⟩ none 0 callLimit [] document .null
      (.of_depth (Nat.mul_le_mul_left _ hDepth)) hIds nofun (hasParent_none empty)
  unfold draw drawWithin
  rcases hGrow : Growth.growWithin callLimit .unlimited ⟨empty, ids, ()⟩ none 0 [] document with
    ⟨result, growth⟩
  rw [hGrow] at hJudged
  obtain ⟨hFit, hOk⟩ | ⟨fragment, hComes, hUnfit, hError⟩ := hJudged
  · dsimp only at hOk
    subst hOk
    exact .inl ⟨hFit, _, rfl⟩
  · dsimp only at hError
    subst hError
    exact .inr ⟨fragment, hComes, hUnfit, rfl⟩

/-- Keyword values of the wrong form, among them lists under `required` of fragments that are no
objects. -/
def malformed : Json :=
  .obj [("type", .int 5), ("required", .str "a"), ("patternProperties", .arr []),
    ("properties", .obj [
      ("a", .obj [("anyOf", .int 1), ("required", .arr [.int 5])]),
      ("b", .obj [("items", .null), ("required", .arr [.int 5])]),
      ("c", .obj [("$ref", .str "#/a"), ("properties", .null), ("required", .arr [.int 5])]),
      ("d", .obj [("$ref", .int 1), ("enum", .int 3), ("required", .arr [.null])]),
      ("e", .int 5)])]

/-- No malformed value keeps the document from being drawn. -/
theorem draw_or_refuse_malformed :
    (∀ fragment, malformed.ComesTo fragment → ¬ IsUnfit fragment) ∧
      ∃ outline, (draw .unlimited () (.numbered "n") malformed).1 = .ok outline ∧
        outline.records.map (·.2.summary.kind) =
          [.object, .combiner, .array, .reference, .scalar] := by
  have hKinds : (draw .unlimited () (.numbered "n") malformed).1.toOption.map
      (fun outline => outline.records.map (·.2.summary.kind)) =
        some [.object, .combiner, .array, .reference, .scalar] := by
    decide +kernel
  obtain ⟨outline, hDraw, hKinds⟩ := exists_ok_of_map_toOption hKinds
  obtain ⟨hFit, -⟩ | ⟨_, -, -, hError⟩ :=
    @draw_or_refuse malformed (.numbered "n") (by decide +kernel) (IdSource.numbered_injective "n")
  · exact ⟨hFit, outline, hDraw, hKinds⟩
  · rw [hDraw] at hError
    cases hError

/-- Without any property to require, a number is listed as required. -/
def numberRequired : Json := .obj [("properties", .obj []), ("required", .arr [.int 5])]

/-- Not every malformed keyword value is left out of a summary. -/
theorem draw_or_refuse_numberRequired :
    numberRequired.depth < nestingLimit ∧
      (draw .unlimited () (.numbered "n") numberRequired).1 =
        .error (.refused .objectSummary [⟨[.key "required", .index 0], .notText⟩]) :=
  ⟨by decide +kernel, by decide +kernel⟩

end Outline

end SchemaOutline
