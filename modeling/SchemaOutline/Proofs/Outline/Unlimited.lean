import Mathlib.Data.List.Nodup
import Mathlib.Data.Set.Operations
import SchemaOutline.Proofs.Outline.Renaming

/-!
# Drawing without a limit

Without a limit what a document yields does not depend on the identifiers, which are taken from
their source one after the other. So the outlines that are drawn of one document differ by a
renaming (`exists_renamed_of_draw`), and a source that never repeats itself draws whatever another
one does (`exists_draw_of_injective`).
-/

set_option autoImplicit false

namespace SchemaOutline

theorem Expansion.ofSummary_withId (room : Nat) (summary : Summary) (id : String) :
    ofSummary room (summary.withId id) = ofSummary room summary := rfl

namespace Yields

variable {room : Nat} {above other : Option String} {level : Int} {location : Location}
  {descents : List Descent} {stock stock' : Stock Unit} {forest : Forest}

theorem unlabelled_eq
    (h : Yields .unlimited room above level location descents stock forest stock')
    {again again' : Stock Unit} {second : Forest}
    (hSecond : Yields .unlimited room other level location descents again second again') :
    forest.unlabelled = second.unlabelled := by
  induction h generalizing other again again' second with
  | done =>
    cases hSecond
    rfl
  | passed hValue _ ih =>
    cases hSecond with
    | passed _ hRest => exact ih hRest
    | keptOut _ _ _ hJudge => cases hJudge
    | drawn hObj =>
      rw [hObj] at hValue
      cases hValue
  | keptOut _ _ _ hJudge => cases hJudge
  | drawn hValue hSummary hAbove hJudge hExpansion _ _ ihBelow ihRest =>
    cases hSecond with
    | passed hNone =>
      rw [hValue] at hNone
      cases hNone
    | keptOut _ _ _ hJudge => cases hJudge
    | @drawn _ _ _ _ _ _ _ _ _ _ _ _ summary' _ _ _ hValue' hSummary' _ _ hExpansion' hBelow'
        hRest' =>
      rw [hValue] at hValue'
      cases hValue'
      have hSame := Summary.ofFragment_of_ofFragment hSummary again.ids.peek
      rw [hSummary'] at hSame
      cases hSame
      rw [Expansion.ofSummary_withId, hExpansion] at hExpansion'
      cases hExpansion'
      rw [Forest.unlabelled, Forest.unlabelled, Forest.renamed, Forest.renamed]
      congr 1
      · exact ihBelow hBelow'
      · exact ihRest hRest'

theorem exists_of_stock
    (h : Yields .unlimited room above level location descents stock forest stock')
    (other : Option String) (again : Stock Unit) :
    ∃ second again', Yields .unlimited room other level location descents again second again' := by
  induction h generalizing other again with
  | done => exact ⟨_, _, .done⟩
  | passed hValue _ ih =>
    obtain ⟨second, again', hSecond⟩ := ih other again
    exact ⟨_, _, .passed hValue hSecond⟩
  | keptOut _ _ _ hJudge => cases hJudge
  | @drawn _ _ _ _ _ _ _ _ _ _ _ _ summary _ _ _ hValue hSummary _ _ hExpansion _ _ ihBelow
      ihRest =>
    obtain ⟨below, mid, hBelow⟩ := ihBelow (some again.ids.peek) ⟨again.ids.next, ()⟩
    obtain ⟨beside, again', hBeside⟩ := ihRest other mid
    have hSummary' := Summary.ofFragment_of_ofFragment hSummary again.ids.peek
    have hExpansion' := (Expansion.ofSummary_withId _ summary again.ids.peek).trans hExpansion
    have hAbove : (other.map fun id => (⟨id, "", 0, none, none⟩ : Entry)).map Entry.id = other := by
      simp [Function.comp_def]
    exact ⟨_, _, .drawn hValue hSummary' hAbove rfl hExpansion' hBelow hBeside⟩

theorem ids_eq (h : Yields .unlimited room above level location descents stock forest stock') :
    forest.ids = (List.range' stock.ids.taken forest.size).map stock.ids.nth ∧
      stock'.ids = ⟨stock.ids.nth, stock.ids.taken + forest.size⟩ := by
  induction h with
  | done => exact ⟨rfl, rfl⟩
  | passed _ _ ih => exact ih
  | keptOut _ _ _ hJudge => cases hJudge
  | @drawn _ _ _ _ _ _ _ _ _ below beside _ _ _ _ _ _ hSummary _ _ _ _ _ ihBelow ihRest =>
    obtain ⟨hBelow, hMid⟩ := ihBelow
    obtain ⟨hBeside, hLast⟩ := ihRest
    rw [hMid] at hBeside hLast
    constructor
    · rw [Forest.ids_tree, hBelow, hBeside, Summary.id_of_ofFragment hSummary, ← List.map_append]
      rw [Forest.size, Nat.add_right_comm, List.range'_succ, List.map_cons, ← List.range'_append_1]
      rfl
    · rw [hLast]
      simp [Forest.size, IdSource.next]
      omega

end Yields

namespace Outline

variable {ids others : IdSource} {document : Json} {outline second : Outline}

theorem exists_draw_of_injective (hDraw : (draw .unlimited () ids document).1 = .ok outline)
    (hOthers : Function.Injective others.nth) :
    ∃ second, (draw .unlimited () others document).1 = .ok second := by
  obtain ⟨forest, hYields, -⟩ := exists_forest_of_draw (Prod.ext hDraw rfl)
  obtain ⟨second, stock', hSecond⟩ := hYields.exists_of_stock none ⟨others, ()⟩
  have hIds : second.ids.Nodup := by
    rw [hSecond.ids_eq.1]
    exact List.Nodup.map hOthers (List.nodup_range' ..)
  rw [draw_of_yieldedBy Gate.unlimited_ignoresAbove hSecond hIds]
  exact ⟨_, rfl⟩

/-- The outlines that are drawn of one document differ by a one-to-one renaming. -/
theorem exists_renamed_of_draw (hDraw : (draw .unlimited () ids document).1 = .ok outline)
    (hSecond : (draw .unlimited () others document).1 = .ok second) :
    ∃ rename : String → String, Set.InjOn rename {id | id ∈ outline.records.map Prod.fst} ∧
      second = outline.renamed rename := by
  obtain ⟨forest, hYields, hIds, rfl⟩ := exists_forest_of_draw (Prod.ext hDraw rfl)
  obtain ⟨forest', hYields', hIds', rfl⟩ := exists_forest_of_draw (Prod.ext hSecond rfl)
  obtain ⟨rename, rfl⟩ := Forest.exists_renamed (hYields.unlabelled_eq hYields') hIds
  refine ⟨rename, ?_, ofForest_renamed rename forest⟩
  have hKeys : (ofForest forest).records.map Prod.fst = forest.ids := by
    simp [records_ofForest, Forest.ids]
  rw [hKeys]
  rw [Forest.ids_renamed] at hIds'
  intro id hId id' hId' hEq
  exact List.inj_on_of_nodup_map hIds' hId hId' hEq

end Outline

end SchemaOutline
