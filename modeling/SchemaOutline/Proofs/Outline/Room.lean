import SchemaOutline.Proofs.Outline.Sketch
import SchemaOutline.Proofs.Outline.Target

/-!
# More and less room

The room decides whether a document is drawn, and nothing else. What comes of a document in some
room comes of it in more (`Yields.in_more`). In less room either the same comes of it or it is found
to be too deep (`Yields.or_tooDeep`), and so there are just these two ways of drawing it there
(`Outline.drawWithin_of_le`).
-/

set_option autoImplicit false

namespace SchemaOutline

namespace Expansion

open Fragment

variable {id : String} {fragment : Members} {inherited : Json} {summary : Summary} {room more : Nat}
  {expansion : Expansion}

/-- An expansion that is found at all is found in any room that suffices for its arrays. -/
theorem ofSummary_eq_ite (hSummary : Summary.ofFragment id fragment inherited = .ok summary)
    (h : ofSummary more summary = .ok expansion) (room : Nat) :
    ofSummary room summary =
      if callsInPlace * expansion.arrays ≤ room then .ok expansion else .error .tooDeep := by
  obtain ⟨c, -, hShape, -⟩ | ⟨-, -, target, hShape⟩ | ⟨-, -, hShape⟩ :=
    Summary.shape_of_ofFragment hSummary
  · rw [ofSummary, hShape] at h ⊢
    cases h
    exact (if_pos (Nat.zero_le room)).symm
  · rw [ofSummary, hShape] at h ⊢
    cases h
    exact (if_pos (Nat.zero_le room)).symm
  · unfold ofSummary at h ⊢
    cases hKind : structuralKind fragment with
    | array =>
      rw [hKind] at hShape
      rw [hShape] at h ⊢
      dsimp only at h ⊢
      obtain rfl := ofItems_eq hKind h
      rw [ofItems_eq_ite hKind]
      simp [throughItems]
    | object =>
      rw [hKind] at hShape
      obtain ⟨additional, required, hShape⟩ := hShape
      rw [hShape] at h ⊢
      cases h
      exact (if_pos (Nat.zero_le room)).symm
    | combiner | reference | scalar =>
      rw [hKind] at hShape
      rw [hShape] at h ⊢
      cases h
      exact (if_pos (Nat.zero_le room)).symm

theorem ofSummary_in_more (hSummary : Summary.ofFragment id fragment inherited = .ok summary)
    (h : ofSummary room summary = .ok expansion) (hLe : room ≤ more) :
    ofSummary more summary = .ok expansion := by
  have hSame := ofSummary_eq_ite hSummary h room
  rw [h] at hSame
  split at hSame
  · rename_i hRoom
    rw [ofSummary_eq_ite hSummary h, if_pos (Nat.le_trans hRoom hLe)]
  · cases hSame

theorem roomBelow_mono (expansion : Expansion) (hLe : room ≤ more) :
    expansion.roomBelow room ≤ expansion.roomBelow more :=
  Nat.sub_le_sub_right hLe _

end Expansion

namespace Yields

open Growth

variable {σ : Type} {gate : Gate σ} {room more : Nat} {above : Option String} {level : Int}
  {location : Location} {descents : List Descent} {stock stock' : Stock σ} {forest : Forest}

theorem in_more (h : Yields gate room above level location descents stock forest stock')
    (hLe : room ≤ more) : Yields gate more above level location descents stock forest stock' := by
  induction h generalizing more with
  | done => exact .done
  | passed hValue _ ih => exact .passed hValue (ih hLe)
  | keptOut hValue hSummary hAbove hJudge _ ih =>
    obtain ⟨left, rfl⟩ := Nat.exists_eq_add_of_le' (Nat.le_of_add_left_le hLe)
    exact .keptOut hValue hSummary hAbove hJudge (ih hLe)
  | @drawn _ _ _ _ _ _ _ _ _ _ _ _ _ _ _ expansion hValue hSummary hAbove hJudge hExpansion _ _
      ihBelow ihRest =>
    obtain ⟨left, rfl⟩ := Nat.exists_eq_add_of_le' (Nat.le_of_add_left_le hLe)
    have hLess := Nat.le_of_add_le_add_right hLe
    exact .drawn hValue hSummary hAbove hJudge
      (Expansion.ofSummary_in_more hSummary hExpansion hLess)
      (ihBelow (expansion.roomBelow_mono hLess)) (ihRest hLe)

/-- In less room the same comes of the descents, or a visit of them finds that they are too deep. -/
theorem or_tooDeep (hGate : gate.IgnoresAbove)
    (h : Yields gate more above level location descents stock forest stock') (hLe : room ≤ more)
    {parent : Option Nat} {outline : Outline} (hParent : outline.HasParent parent)
    (hFree : outline.IsFreeFor forest) :
    Yields gate room above level location descents stock forest stock' ∨
      (outcome (visitAll gate room parent level location descents)
        ⟨outline, stock.ids, stock.gate⟩).1 = .error .tooDeep := by
  induction h generalizing room outline parent with
  | done => exact .inl .done
  | passed hValue _ ih =>
    obtain hRest | hDeep := ih hLe hParent hFree
    · exact .inl (.passed hValue hRest)
    · right
      rw [visitAll, Reaches.outcome_cons]
      · exact hDeep
      · exact (reaches_visit_passed_iff hValue).mpr rfl
  | keptOut hValue hSummary hAbove hJudge _ ih =>
    by_cases hRoom : room < callsPerEntry
    · right
      apply outcome_cons_of_error
      rw [hValue, visit_of_lt hRoom]
      rfl
    obtain ⟨left, rfl⟩ := Nat.exists_eq_add_of_le' (Nat.le_of_not_lt hRoom)
    obtain hRest | hDeep := ih hLe hParent hFree
    · exact .inl (.keptOut hValue hSummary hAbove hJudge hRest)
    · right
      rw [visitAll, Reaches.outcome_cons]
      · exact hDeep
      · rw [hValue, reaches_visit_iff hParent]
        exact ⟨_, false, _, hSummary, (hGate _ _ _ _ _).trans hJudge, rfl⟩
  | @drawn _ _ level _ _ _ _ _ _ _ _ _ _ _ _ expansion hValue hSummary hAbove hJudge hExpansion
      hBelow hRest ihBelow ihRest =>
    by_cases hRoom : room < callsPerEntry
    · right
      apply outcome_cons_of_error
      rw [hValue, visit_of_lt hRoom]
      rfl
    obtain ⟨left, rfl⟩ := Nat.exists_eq_add_of_le' (Nat.le_of_not_lt hRoom)
    have hLess := Nat.le_of_add_le_add_right hLe
    obtain ⟨hId, hBelowFree, hBesideFree⟩ := (Outline.isFreeFor_tree_iff parent level).mp hFree
    have hJudge' := (hGate _ _ (parent.bind (outline.entries[·]?)) _ _).trans hJudge
    have hIte := Expansion.ofSummary_eq_ite hSummary hExpansion left
    split at hIte
    · -- There is room for the entry; it may be below it or beside it that there is none.
      obtain hBelow | hDeep := ihBelow (expansion.roomBelow_mono hLess)
        (Outline.hasParent_stand _ _ _ _ _) hBelowFree
      · obtain hRest | hDeep := ihRest hLe ((hParent.stand _ _ _ _).plant _ _ _) hBesideFree
        · exact .inl (.drawn hValue hSummary hAbove hJudge hIte hBelow hRest)
        · right
          rw [visitAll, Reaches.outcome_cons]
          · exact hDeep
          · rw [hValue, reaches_visit_iff hParent]
            exact ⟨_, true, _, hSummary, hJudge', hId, expansion, hIte,
              reaches_of_yields hGate (Outline.hasParent_stand _ _ _ _ _) hBelow hBelowFree⟩
      · right
        apply outcome_cons_of_error
        rw [hValue, outcome_visit_of_ok hParent hSummary hJudge' hId hIte]
        exact hDeep
    · right
      apply outcome_cons_of_error
      rw [hValue]
      exact outcome_visit_of_error hParent hSummary hJudge' hId hIte

end Yields

namespace Outline

variable {σ : Type} {gate : Gate σ} {room more : Nat} {start : σ} {ids : IdSource} {document : Json}
  {outline : Outline} {growth : Growth σ} {failure : Failure}

theorem drawWithin_of_error
    (h : (Growth.outcome (Growth.visitAll gate room none 0 [] [⟨[], document, .null⟩])
      ⟨empty, ids, start⟩).1 = .error failure) :
    (drawWithin room gate start ids document).1 = .error (drawingFailure failure) := by
  have hVisit : (Growth.growWithin room gate ⟨empty, ids, start⟩ none 0 [] document).1 =
      .error failure := by
    unfold Growth.visitAll at h
    rw [Growth.outcome_singleton] at h
    exact h
  unfold drawWithin
  generalize Growth.growWithin room gate ⟨empty, ids, start⟩ none 0 [] document = grown at hVisit ⊢
  obtain ⟨_ | _, g⟩ := grown
  · cases hVisit
    rfl
  · cases hVisit

/-- What is drawn in some room is drawn in less room too, or is too deep there. -/
theorem drawWithin_of_le (hGate : gate.IgnoresAbove)
    (h : drawWithin more gate start ids document = (.ok outline, growth)) (hLe : room ≤ more) :
    drawWithin room gate start ids document = (.ok outline, growth) ∨
      (drawWithin room gate start ids document).1 = .error .tooDeepToDraw := by
  obtain ⟨forest, hYields, hIds, rfl⟩ := exists_forest_of_drawWithin h
  have hFree : empty.IsFreeFor forest := ⟨hIds, fun _ _ => rfl⟩
  obtain hLess | hDeep := hYields.or_tooDeep hGate hLe (hasParent_none empty) hFree
  · left
    rw [drawWithin_of_yieldedWithin hGate hLess hIds, ← h,
      drawWithin_of_yieldedWithin hGate hYields hIds]
  · exact .inr (drawWithin_of_error hDeep)

theorem drawWithin_in_more (hGate : gate.IgnoresAbove)
    (h : drawWithin room gate start ids document = (.ok outline, growth)) (hLe : room ≤ more) :
    drawWithin more gate start ids document = (.ok outline, growth) := by
  obtain ⟨forest, hYields, hIds, rfl⟩ := exists_forest_of_drawWithin h
  rw [drawWithin_of_yieldedWithin hGate (hYields.in_more hLe) hIds, ← h,
    drawWithin_of_yieldedWithin hGate hYields hIds]

end Outline

end SchemaOutline
