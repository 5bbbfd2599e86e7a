import SchemaOutline.Proofs.Success
import SchemaOutline.Session

/-!
# What drawing answers

A document that is drawn is answered with an outline and perhaps with a job (`Session.answer`). The
state after drawing is known from the answer alone, and the answer does not look at what is shown at
the time.
-/

set_option autoImplicit false

namespace SchemaOutline

theorem Wire.ticket_of_jobFor {ticket : String} {document : Json} {foldsAllOf : Bool} {job : Job}
    (h : jobFor ticket document foldsAllOf = .ok job) : job.ticket = ticket := by
  cases document with
  | obj members =>
    cases h
    rfl
  | _ => cases h

namespace Session

/-- The outline that is shown at once for a document, and the job for the rest, if there is one. -/
def answer (session : Session) (document : Json) : Except Failure (Outline × Option Job) := do
  let (needsJob, _) ← session.needsJob document
  if needsJob then
    let preview ← (Outline.draw (Gate.quota session.limit) 0 session.nodeIds document).1
    let job ← session.jobFor document
    .ok (preview, some job)
  else
    let whole ← (Outline.draw .unlimited () session.nodeIds document).1
    .ok (whole, none)

/-- The session as far as drawing depends on it, with nothing shown and nobody told. -/
def bare (session : Session) : Session :=
  { session with outline := .empty, latest := none, notifies := false, updates := [] }

variable (session : Session) (document : Json)

theorem needsJob_eq_ok {needs : Bool} {event : Event}
    (h : session.needsJob document = .ok (needs, event)) :
    ∃ count mentions, Estimate.entryCount document (some session.limit) = .ok count ∧
      Estimate.mentionsAllOf document = .ok mentions ∧
      needs = (decide (session.limit < count) || (mentions && session.foldsAllOf)) ∧
      event = .estimated count session.limit mentions := by
  unfold needsJob at h
  obtain ⟨count, hCount, h⟩ := bind_eq_ok_iff.mp h
  obtain ⟨mentions, hMentions, h⟩ := bind_eq_ok_iff.mp h
  cases h
  exact ⟨count, mentions, hCount, hMentions, rfl, rfl⟩

theorem ticket_of_jobFor {job : Job} (h : session.jobFor document = .ok job) :
    job.ticket = session.tickets.peek := by
  unfold jobFor at h
  split at h
  · exact Wire.ticket_of_jobFor h
  · cases h

theorem answer_bare : session.bare.answer document = session.answer document := rfl

theorem bare_receive (delivery : Delivery) :
    (session.receive delivery).state.bare = session.bare := by
  unfold receive
  split <;> rfl

theorem bare_draw :
    (session.draw document).state.bare = (session.bare.draw document).state.bare := by
  have hNeeds : session.bare.needsJob document = session.needsJob document := rfl
  have hJob : session.bare.jobFor document = session.jobFor document := rfl
  have hNode : session.bare.nodeIds = session.nodeIds := rfl
  have hLimit : session.bare.limit = session.limit := rfl
  unfold draw
  rw [hNeeds]
  rcases session.needsJob document with failure | ⟨_ | _, event⟩
  · rfl
  · simp only [drawWhole, hNode]
    rcases Outline.draw .unlimited () session.nodeIds document with ⟨_ | _, growth⟩ <;> rfl
  · simp only [drawPreview, hNode, hLimit, hJob]
    rcases Outline.draw (Gate.quota session.limit) 0 session.nodeIds document with ⟨_ | _, growth⟩
    · rfl
    · cases session.jobFor document <;> rfl

/-- What drawing does: a failed draw leaves the outline and the ticket that is waited for as they
were, and any other one shows its answer and waits for its job, if it has one. -/
theorem draw_cases :
    (∃ failure ids tickets, session.answer document = .error failure ∧
      (session.draw document).result = .error failure ∧
      (tickets = session.tickets ∨ tickets = session.tickets.next) ∧
      (session.draw document).state = { session with nodeIds := ids, tickets }) ∨
    (∃ outline ids, session.answer document = .ok (outline, none) ∧
      (session.draw document).result = .ok none ∧
      (session.draw document).state =
        { session with nodeIds := ids, outline, latest := none }) ∨
    (∃ outline job ids, session.answer document = .ok (outline, some job) ∧
      (session.draw document).result = .ok (some job) ∧ job.ticket = session.tickets.peek ∧
      (session.draw document).state =
        { session with
          nodeIds := ids
          tickets := session.tickets.next
          outline
          latest := some job.ticket }) := by
  unfold draw answer
  rcases session.needsJob document with failure | ⟨_ | _, event⟩
  · exact .inl ⟨failure, session.nodeIds, session.tickets, rfl, rfl, .inl rfl, rfl⟩
  · simp only [drawWhole, bind, Except.bind, Bool.false_eq_true, if_false]
    rcases Outline.draw .unlimited () session.nodeIds document with ⟨failure | outline, growth⟩
    · exact .inl ⟨failure, growth.ids, session.tickets, rfl, rfl, .inl rfl, rfl⟩
    · exact .inr (.inl ⟨outline, growth.ids, rfl, rfl, rfl⟩)
  · simp only [drawPreview, bind, Except.bind, if_true]
    rcases Outline.draw (Gate.quota session.limit) 0 session.nodeIds document with
      ⟨failure | outline, growth⟩
    · exact .inl ⟨failure, growth.ids, session.tickets, rfl, rfl, .inl rfl, rfl⟩
    · cases hJob : session.jobFor document with
      | error failure =>
        exact .inl ⟨failure, growth.ids, session.tickets.next, rfl, rfl, .inr rfl, rfl⟩
      | ok job =>
        refine .inr (.inr ⟨outline, job, growth.ids, rfl, rfl, ?_, rfl⟩)
        exact session.ticket_of_jobFor document hJob

theorem result_draw : (session.draw document).result = (session.answer document).map Prod.snd := by
  obtain ⟨failure, ids, tickets, hAnswer, hResult, -⟩ | ⟨outline, ids, hAnswer, hResult, -⟩ |
    ⟨outline, job, ids, hAnswer, hResult, -⟩ := session.draw_cases document <;>
  · rw [hAnswer, hResult]
    rfl

theorem outline_draw {outline : Outline} {job? : Option Job}
    (h : session.answer document = .ok (outline, job?)) :
    (session.draw document).state.outline = outline := by
  obtain ⟨failure, ids, tickets, hAnswer, -⟩ | ⟨outline', ids, hAnswer, -, hState⟩ |
    ⟨outline', job, ids, hAnswer, -, -, hState⟩ := session.draw_cases document
  · rw [hAnswer] at h
    cases h
  · rw [hAnswer] at h
    cases h
    rw [hState]
  · rw [hAnswer] at h
    cases h
    rw [hState]

end Session

end SchemaOutline
