import SchemaOutline.Proofs.Fragment.Folding
import SchemaOutline.Proofs.Outline.Placement
import SchemaOutline.Proofs.Outline.Unlimited
import SchemaOutline.Proofs.Session.Answer

/-!
# Drawing at once and by a job

A document that needs no job is drawn at once, and a job for it would deliver the same outline under
other identifiers (`draw_agrees_with_job`): there is nothing to fold in it, and what is delivered is
put together again as it was drawn.
-/

set_option autoImplicit false

namespace SchemaOutline

theorem Delivery.outline_ofOutline {gate : Gate Unit} {ids : IdSource} {document : Json}
    {outline : Outline} (hDraw : (Outline.draw gate () ids document).1 = .ok outline)
    (ticket : String) : (ofOutline ticket outline).outline = outline := by
  obtain ⟨forest, -, -, rfl⟩ := Outline.exists_forest_of_draw (Prod.ext hDraw rfl)
  exact Outline.ofParts_ofForest forest

namespace Job

variable {job : Job} {ids : IdSource} {delivery : Delivery}

theorem exists_draw_of_run (h : (job.run ids).1 = .ok delivery) :
    ∃ document, job.prepared = .ok document ∧
      (Outline.draw .unlimited () ids document).1 = .ok delivery.outline := by
  unfold run at h
  cases hPrepared : job.prepared with
  | error failure =>
    rw [hPrepared] at h
    cases h
  | ok document =>
    rw [hPrepared] at h
    obtain ⟨outline, hDraw, rfl⟩ := map_eq_ok_iff.mp h
    exact ⟨document, rfl, by rw [Delivery.outline_ofOutline hDraw]; exact hDraw⟩

end Job

namespace Session

variable {session : Session} {members : Members} {event : Event}

theorem prepared_of_needsJob (h : session.needsJob (.obj members) = .ok (false, event))
    (ticket : String) :
    (Job.mk ticket members session.foldsAllOf).prepared = .ok (.obj members) := by
  unfold Job.prepared
  split
  · rename_i hJob
    have hFolds : session.foldsAllOf = true := hJob
    obtain ⟨_, mentions, -, hMentions, hNeeds, -⟩ := needsJob_eq_ok _ _ h
    rw [hFolds, Bool.and_true] at hNeeds
    have hNone : mentions = false := (Bool.or_eq_false_iff.mp hNeeds.symm).2
    rw [hNone] at hMentions
    rw [Estimate.foldAllOf?_of_mentionsAllOf hMentions]
    rfl
  · rfl

theorem answer_of_needsJob (h : session.needsJob (.obj members) = .ok (false, event)) :
    session.answer (.obj members) =
      (Outline.draw .unlimited () session.nodeIds (.obj members)).1.map fun whole =>
        (whole, none) := by
  unfold answer
  rw [h]
  cases hDraw : (Outline.draw .unlimited () session.nodeIds (.obj members)).1 <;>
  · simp only [bind, Except.bind, Bool.false_eq_true, if_false]
    rfl

/-- What is drawn at once is what a job would deliver. Where no `allOf` list is mentioned there is
nothing to fold; and if a document needs no job but a job for it succeeds, then it is drawn at once
too, provided that the identifiers do not repeat, and up to a one-to-one renaming the outline is the
one that the job delivers. -/
theorem draw_agrees_with_job :
    (∀ v, Estimate.mentionsAllOf v = .ok false → v.foldAllOf? = .ok v) ∧
    ∀ (session : Session) (members : Members) (event : Event) (ticket : String) (ids : IdSource)
      (delivery : Delivery),
      session.needsJob (.obj members) = .ok (false, event) →
      ((Job.mk ticket members session.foldsAllOf).run ids).1 = .ok delivery →
        (Function.Injective session.nodeIds.nth →
          (session.draw (.obj members)).result = .ok none) ∧
        ∀ job?, (session.draw (.obj members)).result = .ok job? →
          job? = none ∧ ∃ rename : String → String,
            Set.InjOn rename {id | id ∈ delivery.records.map Prod.fst} ∧
            (session.draw (.obj members)).state.outline = delivery.outline.renamed rename := by
  refine ⟨fun v => Estimate.foldAllOf?_of_mentionsAllOf, ?_⟩
  intro session members event ticket ids delivery hNeeds hRun
  obtain ⟨document, hPrepared, hJob⟩ := Job.exists_draw_of_run hRun
  rw [prepared_of_needsJob hNeeds] at hPrepared
  cases hPrepared
  have hAnswer := answer_of_needsJob hNeeds
  rw [result_draw]
  constructor
  · intro hIds
    obtain ⟨outline, hDraw⟩ := Outline.exists_draw_of_injective hJob hIds
    rw [hAnswer, hDraw]
    rfl
  · intro job? hJob?
    cases hDraw : (Outline.draw .unlimited () session.nodeIds (.obj members)).1 with
    | error failure =>
      rw [hAnswer, hDraw] at hJob?
      cases hJob?
    | ok outline =>
      rw [hDraw] at hAnswer
      rw [hAnswer] at hJob?
      rw [outline_draw _ _ hAnswer]
      exact ⟨(Except.ok.inj hJob?).symm, Outline.exists_renamed_of_draw hJob hDraw⟩

/-- Three entries, and `allOf` as the name of a property and in a default alone. -/
def mereNames : Members :=
  [("properties", .obj [("allOf", .obj [("items", .arr [.obj [], .null])])]),
    ("default", .obj [("allOf", .arr [.obj []])])]

theorem draw_agrees_with_job_mereNames :
    ∃ delivery, ((Job.mk "t" mereNames true).run (.numbered "m")).1 = .ok delivery ∧
      delivery.entries.size = 3 ∧
      ∃ rename : String → String, Set.InjOn rename {id | id ∈ delivery.records.map Prod.fst} ∧
        ((Session.mk 3 true .empty none (.numbered "n") (.numbered "t") false []).draw
          (.obj mereNames)).state.outline = delivery.outline.renamed rename := by
  have hSize : ((Job.mk "t" mereNames true).run (.numbered "m")).1.toOption.map
      (·.entries.size) = some 3 := by
    decide +kernel
  have hNeeds : (Session.mk 3 true .empty none (.numbered "n") (.numbered "t") false []).needsJob
      (.obj mereNames) = .ok (false, .estimated 3 3 false) := by
    decide +kernel
  obtain ⟨delivery, hRun, hEntries⟩ := exists_ok_of_map_toOption hSize
  obtain ⟨hAtOnce, hAgrees⟩ := draw_agrees_with_job.2 _ _ _ _ _ _ hNeeds hRun
  exact ⟨delivery, hRun, hEntries, (hAgrees none (hAtOnce (IdSource.numbered_injective "n"))).2⟩

end Session

end SchemaOutline
