import SchemaOutline.Proofs.Outline.Children
import SchemaOutline.Proofs.Outline.Preorder

/-!
# References are not opened

An entry that is summarised as a reference has no children, so nothing that is shown lies below it
(`Drawn.kind_of_mem_childList`). A single schema for the items of an array has no entry of its own
and is no longer taken for a reference where it is expanded in place: with a reference there that
has properties besides its target, these are shown (`draw_opens_reference`). Every reference on the
way to an entry stands at such a place, or is the list of properties itself, which may have a name
that is spelled like the keyword (`reference_above_of_draw`).
-/

set_option autoImplicit false

namespace SchemaOutline

/-- There is a fragment at the location that is summarised as a reference. -/
def Json.HasReferenceAt (document : Json) (location : Location) : Prop :=
  ∃ fragment, document.at? location = some (.obj fragment) ∧
    Fragment.combiner? fragment = none ∧ Fragment.isReference fragment = true

theorem prefix_of_throughItems {count : Nat} {first second : Location}
    (h : throughItems count = first ++ second) : ∃ n, first = throughItems n := by
  refine ⟨first.length, List.eq_replicate_iff.mpr ⟨rfl, fun step hMem => ?_⟩⟩
  have hStep : step ∈ throughItems count := by
    rw [h]
    exact List.mem_append_left _ hMem
  exact List.eq_of_mem_replicate hStep

/-- A location that lies on the way along a passage, and before its end, is reached through single
schemas for items alone or lies between the two steps of the passage. -/
theorem Passage.cases_of_append {count : Nat} {passage : Passage} {first second : Location}
    (h : throughItems count ++ passage.steps = first ++ second) (hSecond : second ≠ []) :
    (∃ n, first = throughItems n) ∨
      ∃ keyword last, passage.steps = [.key keyword, last] ∧
        first = throughItems count ++ [.key keyword] := by
  obtain ⟨middle, rfl, hSteps⟩ | ⟨middle, hThrough, -⟩ := List.append_eq_append_iff.mp h
  · cases middle with
    | nil => exact .inl ⟨count, List.append_nil _⟩
    | cons step rest =>
      obtain ⟨keyword, last, hPassage⟩ :
          ∃ keyword last, passage.steps = [.key keyword, last] := by
        cases passage <;> exact ⟨_, _, rfl⟩
      rw [hPassage, List.cons_append, List.cons.injEq] at hSteps
      obtain ⟨rfl, hRest⟩ := hSteps
      have hLast : rest = [] := by
        cases rest with
        | nil => rfl
        | cons step more =>
          rw [List.cons_append, List.cons.injEq] at hRest
          exact absurd (List.append_eq_nil_iff.mp hRest.2.symm).2 hSecond
      subst hLast
      exact .inr ⟨keyword, last, hPassage, rfl⟩
  · exact .inl (prefix_of_throughItems hThrough)

namespace Outline

variable {σ : Type} {gate : Gate σ} {outline : Outline} {document : Json} {n : Nat} {entry : Entry}
  {record : Record} {shown : Members} {inherited : Json}

theorem StandsFor.kind_of_hasReferenceAt
    (h : outline.StandsFor document entry record shown inherited)
    (hReference : document.HasReferenceAt record.location) :
    record.summary.kind = .reference := by
  obtain ⟨fragment, hAt, hCombiner, hIsReference⟩ := hReference
  obtain ⟨reached, hReached, hShown⟩ := h.leads.fragment
  rw [hAt] at hReached
  cases hReached
  rw [Json.inheriting_of_declines (.inr hIsReference)] at hShown
  cases hShown
  exact (Summary.kind_eq_reference_iff h.summarised).mpr ⟨hCombiner, hIsReference⟩

/-- An entry with children is no reference. -/
theorem Drawn.kind_of_mem_childList
    (h : Drawn gate outline document n entry record shown inherited) {child : Int}
    (hMem : child ∈ entry.childList) : record.summary.kind ≠ .reference := by
  intro hKind
  have hNone : entry.childList = [] := by
    cases hShape : record.summary.shape with
    | reference target =>
      rw [Entry.childList, h.children_of_reference hShape]
      split <;> rfl
    | _ =>
      rw [Summary.kind, hShape] at hKind
      cases hKind
  rw [hNone] at hMem
  cases hMem

theorem mem_childList_of_isParent {start : σ} {ids : IdSource} {p q : Nat}
    (hDraw : (draw gate start ids document).1 = .ok outline)
    (hEntry : outline.entries[p]? = some entry) (hParent : outline.IsParent p q) :
    (q : Int) ∈ entry.childList := by
  obtain ⟨forest, hYields, hIds, rfl⟩ := exists_forest_of_draw (Prod.ext hDraw rfl)
  have hPreorder := inPreorder_ofForest hIds (hYields.tops_of_single 0)
  obtain ⟨children, hChildren, -, hMem⟩ := hPreorder.children p entry hEntry
  rw [hChildren]
  exact List.mem_map_of_mem ((hMem q).mpr hParent)

section

variable {start : σ} {ids : IdSource} {front rest : Location}

/-- What is shown is the root of the document or lies below something shown that is no reference,
through single schemas for items and along a passage. -/
theorem exists_above_of_shows (hDocument : document.NoDuplicates)
    (hDraw : (draw gate start ids document).1 = .ok outline) {location : Location}
    (hShows : outline.Shows location) :
    location = [] ∨ ∃ (above : Location) (count : Nat) (passage : Passage) (fragment : Members),
      outline.Shows above ∧ ¬ document.HasReferenceAt above ∧
      location = above ++ throughItems count ++ passage.steps ∧
      document.at? location = some (.obj fragment) := by
  obtain ⟨q, entry, record, hHas, rfl⟩ := hShows
  obtain ⟨_, shown, inherited, hDrawn⟩ := exists_drawn_of_has hDocument hDraw hHas
  obtain ⟨fragment, hAt, -⟩ := hDrawn.standsFor.leads.fragment
  obtain ⟨hRoot, -⟩ | ⟨p, count, above, aboveRecord, passage, hAbove, hParent, hLocation⟩ :=
    hDrawn.standsFor.root_or_below
  · exact .inl hRoot
  · obtain ⟨_, _, _, hAboveDrawn⟩ := exists_drawn_of_has hDocument hDraw hAbove
    have hKind := hAboveDrawn.kind_of_mem_childList
      (mem_childList_of_isParent hDraw hAbove.1 ⟨entry, hHas.1, hParent⟩)
    refine .inr ⟨_, count, passage, fragment, ⟨p, above, aboveRecord, hAbove, rfl⟩, ?_,
      hLocation, hAt⟩
    exact fun hReference => hKind (hAboveDrawn.standsFor.kind_of_hasReferenceAt hReference)

/-- Nothing below a reference is shown, wherever it stands, unless it is the single schema for the
items of an array; a list of properties that reads like a reference is none. -/
theorem reference_above_of_draw (hDocument : document.NoDuplicates)
    (hDraw : (draw gate start ids document).1 = .ok outline)
    (hShows : outline.Shows (front ++ rest)) (hRest : rest ≠ [])
    (hReference : document.HasReferenceAt front) :
    (∃ above count, outline.Shows above ∧ front = above ++ throughItems (count + 1)) ∨
    ∃ above count keyword, outline.Shows above ∧
      keyword ∈ ["properties", "patternProperties"] ∧
      front = above ++ throughItems count ++ [.key keyword] := by
  induction hLength : rest.length using Nat.strongRecOn generalizing rest with
  | ind length ih =>
    obtain hRoot | ⟨above, count, passage, fragment, hAbove, hNone, hLocation, hAt⟩ :=
      exists_above_of_shows hDocument hDraw hShows
    · exact absurd (List.append_eq_nil_iff.mp hRoot).2 hRest
    rw [List.append_assoc] at hLocation
    obtain ⟨middle, rfl, hMiddle⟩ | ⟨middle, rfl, hWay⟩ := List.append_eq_append_iff.mp hLocation
    · -- Nearer to the root the induction hypothesis speaks of what is above.
      by_cases hSame : middle = []
      · rw [hSame, List.append_nil] at hNone
        exact absurd hReference hNone
      · refine ih middle.length ?_ hAbove hSame rfl
        have hPositive := List.length_pos_iff.mpr passage.steps_ne_nil
        rw [← hLength, hMiddle, List.length_append, List.length_append]
        omega
    · obtain ⟨n, rfl⟩ | ⟨keyword, last, hSteps, rfl⟩ := Passage.cases_of_append hWay hRest
      · cases n with
        | zero =>
          rw [throughItems, List.replicate_zero, List.append_nil] at hReference
          exact absurd hReference hNone
        | succ n => exact .inl ⟨above, n, hAbove, rfl⟩
      · refine .inr ⟨above, count, keyword, hAbove, ?_, (List.append_assoc ..).symm⟩
        rw [hSteps, List.append_assoc] at hWay
        have hLast : [last] = rest := (List.cons.inj (List.append_cancel_left hWay)).2
        obtain ⟨reference, hFront, -⟩ := hReference
        rw [Json.at?_append, hFront, ← hLast, Option.bind_some] at hAt
        cases passage with
        | branch c position | item position =>
          -- An object has nothing at a position of a list.
          cases hSteps
          cases hAt
        | property name | patternProperty name =>
          cases hSteps
          simp

end

/-- A reference with a property besides its target, as the schema for all items. -/
def referenceInPlace : Json :=
  .obj [("items", .obj [("$ref", .str "#/a"), ("properties", .obj [("x", .obj [])])])]

theorem hasReferenceAt_referenceInPlace : referenceInPlace.HasReferenceAt [.key "items"] :=
  ⟨_, rfl, by decide +kernel, by decide +kernel⟩

theorem shows_of_draw_referenceInPlace :
    ∃ outline, (draw .unlimited () (.numbered "n") referenceInPlace).1 = .ok outline ∧
      outline.Shows [.key "items", .key "properties", .key "x"] := by
  have hLocation :
      (draw .unlimited () (.numbered "n") referenceInPlace).1.toOption.map (·.locationOf? 1) =
        some (some [.key "items", .key "properties", .key "x"]) := by
    decide +kernel
  obtain ⟨outline, hDraw, hSecond⟩ := exists_ok_of_map_toOption hLocation
  exact ⟨outline, hDraw, shows_of_locationOf? hSecond⟩

/-- What stands in a reference is shown where that is expanded in place. -/
theorem draw_opens_reference :
    ∃ outline front rest, (draw .unlimited () (.numbered "n") referenceInPlace).1 = .ok outline ∧
      outline.Shows (front ++ rest) ∧ rest ≠ [] ∧ referenceInPlace.HasReferenceAt front := by
  obtain ⟨outline, hDraw, hShows⟩ := shows_of_draw_referenceInPlace
  exact ⟨outline, [.key "items"], [.key "properties", .key "x"], hDraw, hShows,
    List.cons_ne_nil _ _, hasReferenceAt_referenceInPlace⟩

theorem reference_above_of_draw_inPlace :
    referenceInPlace.HasReferenceAt [.key "items"] ∧
    ∃ outline, (draw .unlimited () (.numbered "n") referenceInPlace).1 = .ok outline ∧
      outline.Shows [.key "items", .key "properties", .key "x"] ∧
      ((∃ above count, outline.Shows above ∧ [.key "items"] = above ++ throughItems (count + 1)) ∨
        ∃ above count keyword, outline.Shows above ∧
          keyword ∈ ["properties", "patternProperties"] ∧
          [.key "items"] = above ++ throughItems count ++ [.key keyword]) := by
  have hNames : referenceInPlace.NoDuplicates := by
    simp [referenceInPlace, Json.NoDuplicates, Json.NoDuplicatesInMembers]
  obtain ⟨outline, hDraw, hShows⟩ := shows_of_draw_referenceInPlace
  have hBelow : outline.Shows ([.key "items"] ++ [.key "properties", .key "x"]) := hShows
  exact ⟨hasReferenceAt_referenceInPlace, outline, hDraw, hShows,
    reference_above_of_draw hNames hDraw hBelow (List.cons_ne_nil _ _)
      hasReferenceAt_referenceInPlace⟩

end Outline

end SchemaOutline
