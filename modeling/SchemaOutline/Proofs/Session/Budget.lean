import SchemaOutline.Proofs.Outline.Counting
import SchemaOutline.Proofs.Session.Answer

/-!
# How much is shown at once

A preview never holds more entries than its limit, because the quota counts what it lets in
(`Yields.gate_of_quota`). A document that is drawn at once is only as small as it was counted: a
count that stays within the limit is the whole count (`Estimate.countFrom_of_limited`), but a
combiner whose type is no name can have more entries below it than are counted
(`Session.draw_exceeds_limit`). Where no combiner declares such a type the limit always holds
(`Session.size_draw_le_limit`).
-/

set_option autoImplicit false

namespace SchemaOutline

namespace Estimate

variable {limit : Int} {room total count : Nat} {v : Json} {values : List Json}

/-- Counting several values within a limit, if it does so for each of them, goes on from a total and
is the whole count as long as the limit is not exceeded. -/
theorem foldlM_of_limited
    (hEach : ∀ m n v, countFrom (some limit) room m v = .ok n →
      m ≤ n ∧ ((n : Int) ≤ limit → countFrom none room m v = .ok n))
    (h : values.foldlM (countFrom (some limit) room) total = .ok count) :
    total ≤ count ∧
      ((count : Int) ≤ limit → values.foldlM (countFrom none room) total = .ok count) := by
  induction values generalizing total with
  | nil =>
    cases h
    exact ⟨Nat.le_refl _, fun _ => rfl⟩
  | cons v rest ih =>
    rw [List.foldlM_cons] at h ⊢
    obtain ⟨next, hFirst, h⟩ := bind_eq_ok_iff.mp h
    obtain ⟨hLe, hWhole⟩ := hEach total next v hFirst
    obtain ⟨hRestLe, hRest⟩ := ih h
    refine ⟨Nat.le_trans hLe hRestLe, fun hLimit => ?_⟩
    exact bind_eq_ok_iff.mpr ⟨next, hWhole (by omega), hRest hLimit⟩

/-- A count that has not exceeded its limit is the count without a limit. -/
theorem countFrom_of_limited (h : countFrom (some limit) room total v = .ok count) :
    total ≤ count ∧ ((count : Int) ≤ limit → countFrom none room total v = .ok count) := by
  induction room using Nat.strongRecOn generalizing total count v with
  | ind room ih =>
    cases v with
    | obj fragment =>
      rw [countFrom] at h ⊢
      split at h
      · rename_i hExceeds
        cases h
        have hOut : limit < (total : Int) := of_decide_eq_true hExceeds
        exact ⟨Nat.le_refl _, fun hLimit => by omega⟩
      · rw [if_neg (by simp [exceeds])]
        by_cases hRoom : room < callsPerCount
        · rw [if_pos hRoom] at h
          cases h
        rw [if_neg hRoom] at h ⊢
        split at h
        · rename_i hReference
          cases h
          rw [if_pos hReference]
          exact ⟨Nat.le_succ _, fun _ => rfl⟩
        · rename_i hReference
          rw [if_neg hReference]
          obtain ⟨found, hHeld, h⟩ := bind_eq_ok_iff.mp h
          obtain ⟨hLe, hWhole⟩ :=
            foldlM_of_limited (fun _ _ _ => ih _ (found.roomBelow_lt hRoom)) h
          refine ⟨by omega, fun hLimit => ?_⟩
          exact bind_eq_ok_iff.mpr ⟨found, hHeld, hWhole hLimit⟩
    | _ =>
      rw [countFrom_of_members?_eq_none _ _ _ rfl] at h ⊢
      cases h
      exact ⟨Nat.le_refl _, fun _ => rfl⟩

end Estimate

namespace Yields

variable {room : Nat} {above : Option String} {level : Int} {location : Location}
  {descents : List Descent} {forest : Forest} {limit : Int} {stock stock' : Stock Nat}

/-- A quota counts the entries that it lets in and lets in none beyond its limit. -/
theorem gate_of_quota
    (h : Yields (.quota limit) room above level location descents stock forest stock') :
    stock'.gate = stock.gate + forest.size ∧
      ((stock.gate : Int) ≤ limit → (stock'.gate : Int) ≤ limit) := by
  induction h with
  | done => exact ⟨rfl, id⟩
  | passed _ _ ih => exact ih
  | @keptOut _ _ _ _ _ _ stock _ _ _ _ _ _ _ _ _ hJudge _ ih =>
    simp only [Gate.quota] at hJudge
    split at hJudge
    · cases hJudge
      exact ih
    · cases hJudge
  | drawn _ _ _ hJudge _ _ _ ihBelow ihRest =>
    simp only [Gate.quota] at hJudge
    split at hJudge
    · cases hJudge
    · rename_i hIn
      cases hJudge
      obtain ⟨hBelow, hBelowLimit⟩ := ihBelow
      obtain ⟨hRest, hRestLimit⟩ := ihRest
      simp only at hBelow hBelowLimit
      rw [Forest.size]
      exact ⟨by omega, fun _ => hRestLimit (hBelowLimit (by omega))⟩

end Yields

theorem Outline.size_le_of_draw_quota {limit : Int} {ids : IdSource} {document : Json}
    {outline : Outline} (hLimit : 0 ≤ limit)
    (hDraw : (draw (.quota limit) 0 ids document).1 = .ok outline) :
    (outline.size : Int) ≤ limit := by
  obtain ⟨forest, hYields, -, rfl⟩ := exists_forest_of_draw (Prod.ext hDraw rfl)
  have hSize := size_ofForest forest
  obtain ⟨hCount, hWithin⟩ := Yields.gate_of_quota hYields
  have hGate := hWithin hLimit
  rw [hCount] at hGate
  simp only at hGate
  omega

namespace Session

variable {session : Session} {members : Members} {document : Json} {outline : Outline}
  {job? : Option Job}

theorem count_of_needsJob {event : Event} (h : session.needsJob document = .ok (false, event)) :
    ∃ count, Estimate.entryCount document (some session.limit) = .ok count ∧
      (count : Int) ≤ session.limit := by
  obtain ⟨count, _, hCount, -, hNeeds, -⟩ := needsJob_eq_ok _ _ h
  have hWithin := of_decide_eq_false (Bool.or_eq_false_iff.mp hNeeds.symm).1
  exact ⟨count, hCount, by omega⟩

/-- An answer with a job is a preview, and an answer without one is a whole outline of a document
that was counted within the limit. -/
theorem drawn_of_answer (h : session.answer document = .ok (outline, job?)) :
    (job?.isSome ∧
      (Outline.draw (.quota session.limit) 0 session.nodeIds document).1 = .ok outline) ∨
    (job? = none ∧ (Outline.draw .unlimited () session.nodeIds document).1 = .ok outline ∧
      ∃ count, Estimate.entryCount document (some session.limit) = .ok count ∧
        (count : Int) ≤ session.limit) := by
  unfold answer at h
  obtain ⟨⟨needsJob, event⟩, hNeeds, h⟩ := bind_eq_ok_iff.mp h
  cases needsJob with
  | true =>
    obtain ⟨preview, hDraw, h⟩ := bind_eq_ok_iff.mp h
    obtain ⟨job, hJob, h⟩ := bind_eq_ok_iff.mp h
    cases h
    exact .inl ⟨rfl, hDraw⟩
  | false =>
    obtain ⟨whole, hDraw, h⟩ := bind_eq_ok_iff.mp h
    cases h
    exact .inr ⟨rfl, hDraw, count_of_needsJob hNeeds⟩

theorem exists_answer_of_draw (h : (session.draw document).result = .ok job?) :
    session.answer document = .ok ((session.draw document).state.outline, job?) := by
  rw [result_draw] at h
  obtain ⟨⟨outline, given⟩, hAnswer, rfl⟩ := map_eq_ok_iff.mp h
  rw [hAnswer, outline_draw _ _ hAnswer]

/-- A session shows no more entries at once than its limit, unless it draws a document at once in
which a combiner declares a type that is no name; and even then no more than the limit were
counted. -/
theorem size_draw_le_limit (hLimit : 0 ≤ session.limit)
    (hDraw : (session.draw (.obj members)).result = .ok job?) :
    (job?.isSome ∨ (Json.obj members).LendsNames →
      ((session.draw (.obj members)).state.outline.size : Int) ≤ session.limit) ∧
    (job? = none → ∃ count, Estimate.entryCount (.obj members) none = .ok count ∧
      (count : Int) ≤ session.limit ∧
      count ≤ (session.draw (.obj members)).state.outline.size) := by
  obtain ⟨hJob, hPreview⟩ | ⟨hJob, hWhole, limited, hLimited, hWithin⟩ :=
    drawn_of_answer (exists_answer_of_draw hDraw)
  · have hSize := Outline.size_le_of_draw_quota hLimit hPreview
    refine ⟨fun _ => hSize, ?_⟩
    rintro rfl
    cases hJob
  · obtain ⟨count, hCount, hLe, hLends⟩ := Outline.exists_count_of_draw hWhole
    have hSame : count = limited := by
      have hUnlimited :=
        (Estimate.countFrom_of_limited (mapError_eq_ok_iff.mp hLimited)).2 hWithin
      rw [hCount] at hUnlimited
      exact Except.ok.inj hUnlimited
    subst hSame
    refine ⟨?_, fun _ => ⟨count, ?_, hWithin, hLe⟩⟩
    · rintro (hSome | hNames)
      · rw [hJob] at hSome
        cases hSome
      · rwa [← hLends hNames]
    · exact mapError_eq_ok_iff.mpr hCount

/-- A branch with a property below a combiner of the given type. -/
def typedBranch (type : Json) : Members :=
  [("type", type), ("anyOf", .arr [.obj [("properties", .obj [("a", .obj [])])]])]

/-- A session that shows two entries at once. -/
def showingTwo : Session := ⟨2, true, .empty, none, .numbered "n", .numbered "t", false, []⟩

theorem size_draw_le_limit_typedBranch :
    let document := Json.obj (typedBranch (.arr [.str "array", .str "null"]))
    0 ≤ showingTwo.limit ∧ (showingTwo.draw document).result = .ok none ∧ document.LendsNames ∧
      ((showingTwo.draw document).state.outline.size : Int) ≤ showingTwo.limit := by
  dsimp only
  have hDraw : (showingTwo.draw
      (.obj (typedBranch (.arr [.str "array", .str "null"])))).result = .ok none := by
    decide +kernel
  have hNull : Json.null.LendsNames := .of_members?_eq_none rfl
  have hEmpty : (Json.obj []).LendsNames :=
    .of_parts (by rintro _ _ ⟨⟩) (List.forall_mem_singleton.mpr hNull)
  have hBranch : (Json.obj [("properties", .obj [("a", .obj [])])]).LendsNames :=
    .of_parts (by rintro _ _ ⟨⟩)
      (List.forall_mem_cons.mpr ⟨hNull, List.forall_mem_singleton.mpr hEmpty⟩)
  have hNames : (Json.obj (typedBranch (.arr [.str "array", .str "null"]))).LendsNames :=
    .of_parts (by rintro _ _ ⟨⟩; rfl)
      (List.forall_mem_cons.mpr ⟨hBranch, List.forall_mem_singleton.mpr hNull⟩)
  exact ⟨by decide, hDraw, hNames, (size_draw_le_limit (by decide) hDraw).1 (.inr hNames)⟩

/-- With a list that is not all names for a type the branch is counted as an array without items,
but drawn with its property. -/
theorem draw_exceeds_limit :
    let document := Json.obj (typedBranch (.arr [.str "array", .int 5]))
    (showingTwo.draw document).result = .ok none ∧
      showingTwo.limit < ((showingTwo.draw document).state.outline.size : Int) := by
  decide +kernel

end Session

end SchemaOutline
