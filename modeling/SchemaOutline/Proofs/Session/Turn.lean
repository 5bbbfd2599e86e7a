import Mathlib.Data.List.Basic
import SchemaOutline.Proofs.Session.Answer
import SchemaOutline.Session.Workshop

/-!
# Turns of a workshop

While documents are drawn in a workshop with a pool, the jobs of the pool are started, come to their
end, are heard of and have their flags set, in any order. Each of these turns does one of a few
things to the session and to the list of jobs (`draw_cases`, `start_cases`, `work_cases`,
`hear_cases` and `release_cases`), and what was handed over is found in the reports.
-/

set_option autoImplicit false

namespace SchemaOutline

namespace Event

/-- The ticket of a delivery that has been handed over. -/
def receipt? : Event → Option String
  | .applied ticket _ | .discarded ticket => some ticket
  | _ => none

def submission? : Event → Option String
  | .submitted ticket => some ticket
  | _ => none

/-- The size of an outline that a delivery has put in place. -/
def update? : Event → Option Nat
  | .applied _ entries => some entries
  | _ => none

/-- The event tells of no job and no delivery. -/
def IsInternal (event : Event) : Prop :=
  event.receipt? = none ∧ event.submission? = none ∧ event.update? = none

end Event

namespace Session

theorem isInternal_of_mem_draw {session : Session} {document : Json} {event : Event}
    (h : event ∈ (session.draw document).events) : event.IsInternal := by
  unfold draw at h
  cases hNeeds : session.needsJob document with
  | error failure =>
    rw [hNeeds] at h
    cases h
  | ok needs =>
    obtain ⟨needsJob, estimate⟩ := needs
    rw [hNeeds] at h
    obtain rfl | h := List.mem_cons.mp h
    · obtain ⟨_, _, -, -, -, rfl⟩ := needsJob_eq_ok _ _ hNeeds
      exact ⟨rfl, rfl, rfl⟩
    · have hDrawn : ∃ n ticket, event = .drawn n ∨ event = .previewed n ticket := by
        cases needsJob with
        | true =>
          simp only [drawPreview, if_true] at h
          split at h
          · cases h
          · split at h <;> grind
        | false =>
          simp only [drawWhole, Bool.false_eq_true, if_false] at h
          split at h <;> grind
      obtain ⟨n, ticket, rfl | rfl⟩ := hDrawn <;> exact ⟨rfl, rfl, rfl⟩

theorem receive_of_latest {session : Session} {delivery : Delivery}
    (h : session.latest = some delivery.ticket) :
    session.receive delivery =
      ⟨.ok true,
        { session with
          outline := delivery.outline
          updates := session.updates ++
            (if session.notifies then [delivery.outline.size] else []) },
        [.applied delivery.ticket delivery.outline.size]⟩ := by
  simp [receive, h]

theorem receive_of_latest_ne {session : Session} {delivery : Delivery}
    (h : session.latest ≠ some delivery.ticket) :
    session.receive delivery = ⟨.ok false, session, [.discarded delivery.ticket]⟩ := by
  simp [receive, h]

/-- What a delivery is reported to do: it is handed over, and it is an update if it is taken. -/
theorem receive_reports (session : Session) (delivery : Delivery) :
    (session.receive delivery).events.filterMap Event.receipt? = [delivery.ticket] ∧
      (session.receive delivery).events.filterMap Event.submission? = [] ∧
      ∃ outline, (session.receive delivery).state =
        { session with
          outline
          updates := session.updates ++
            if session.notifies then
              (session.receive delivery).events.filterMap Event.update?
            else [] } := by
  by_cases hLatest : session.latest = some delivery.ticket
  · rw [receive_of_latest hLatest]
    exact ⟨rfl, rfl, _, rfl⟩
  · rw [receive_of_latest_ne hLatest]
    refine ⟨rfl, rfl, session.outline, ?_⟩
    have hNothing : [Event.discarded delivery.ticket].filterMap Event.update? = [] := rfl
    rw [hNothing, ite_self, List.append_nil]

end Session

theorem Job.ticket_of_run {job : Job} {ids : IdSource} {delivery : Delivery}
    (h : (job.run ids).1 = .ok delivery) : delivery.ticket = job.ticket := by
  unfold run at h
  cases hPrepared : job.prepared with
  | error failure =>
    rw [hPrepared] at h
    cases h
  | ok document =>
    rw [hPrepared] at h
    obtain ⟨outline, -, rfl⟩ := map_eq_ok_iff.mp h
    rfl

namespace PoolJob

variable {entry : PoolJob}

/-- What is kept of a job agrees with how far it has come. -/
structure IsSound (entry : PoolJob) : Prop where
  ended : entry.unheard ≠ none → entry.state = .done
  delivered : entry.delivered = true → entry.state.isSettled = true ∧ entry.unheard = none
  ticket : ∀ delivery, entry.unheard = some (.ok delivery) → delivery.ticket = entry.job.ticket

theorem isSound_ofJob (job : Job) : (ofJob job).IsSound := ⟨fun h => absurd rfl h, nofun, nofun⟩

namespace IsSound

theorem unheard_of_state (h : entry.IsSound) (hState : entry.state ≠ .done) :
    entry.unheard = none := by
  by_contra hUnheard
  exact hState (h.ended hUnheard)

theorem not_delivered (h : entry.IsSound) (hState : entry.state.isSettled = false) :
    entry.delivered = false := by
  rw [Bool.eq_false_iff]
  intro hDelivered
  rw [(h.delivered hDelivered).1] at hState
  cases hState

theorem cancel (h : entry.IsSound) (hState : entry.state = .pending) : entry.cancel.IsSound := by
  have hUnheard : entry.unheard = none := h.unheard_of_state (by rw [hState]; decide)
  refine ⟨fun hSome => absurd hUnheard hSome, fun _ => ⟨rfl, hUnheard⟩, fun delivery hSome => ?_⟩
  cases hUnheard.symm.trans hSome

theorem start (h : entry.IsSound) (hState : entry.state = .pending) : entry.start.IsSound := by
  have hUnheard : entry.unheard = none := h.unheard_of_state (by rw [hState]; decide)
  have hDelivered : entry.delivered = false := h.not_delivered (by rw [hState]; rfl)
  refine ⟨fun hSome => absurd hUnheard hSome, fun hTrue => ?_, fun delivery hSome => ?_⟩
  · cases hDelivered.symm.trans hTrue
  · cases hUnheard.symm.trans hSome

theorem settle (h : entry.IsSound) (hState : entry.state.isSettled = false) (ids : IdSource) :
    (entry.settle (entry.job.run ids).1).IsSound := by
  refine ⟨fun _ => rfl, fun hTrue => ?_, fun delivery hSome => ?_⟩
  · cases (h.not_delivered hState).symm.trans hTrue
  · exact Job.ticket_of_run (Option.some.inj hSome)

theorem hear (h : entry.IsSound) : entry.hear.IsSound :=
  ⟨fun hSome => absurd rfl hSome, fun hTrue => ⟨(h.delivered hTrue).1, rfl⟩, nofun⟩

theorem release (h : entry.IsSound) (hState : entry.state = .done)
    (hUnheard : entry.unheard = none) : entry.release.IsSound :=
  ⟨h.ended, fun _ => ⟨congrArg JobState.isSettled hState, hUnheard⟩, h.ticket⟩

end IsSound

theorem isHeard_iff : entry.isHeard = true ↔
    entry.state = .done ∧ entry.unheard = none ∧ entry.delivered = false := by
  simp [isHeard, and_assoc]

/-- A job that is done, with what nobody has heard of it yet. -/
def outcome? (entry : PoolJob) : Option (Job × Option (Except Failure Delivery)) :=
  if entry.state = .done then some (entry.job, entry.unheard) else none

theorem outcome?_of_done (h : entry.state = .done) :
    entry.outcome? = some (entry.job, entry.unheard) :=
  if_pos h

theorem outcome?_of_unsettled (h : entry.state.isSettled = false) : entry.outcome? = none := by
  refine if_neg fun hDone => ?_
  rw [hDone] at h
  cases h

end PoolJob

namespace Pool

variable {pool : Pool} {jobs earlier later : List PoolJob} {position : Nat} {entry : PoolJob}

/-- Changing a job leaves everything before and behind it as it is. -/
theorem exists_change (h : pool.jobs[position]? = some entry) (changed : PoolJob) :
    ∃ earlier later, pool.jobs = earlier ++ entry :: later ∧
      pool.change position changed = { pool with jobs := earlier ++ changed :: later } := by
  obtain ⟨hLt, rfl⟩ := List.getElem?_eq_some_iff.mp h
  refine ⟨pool.jobs.take position, pool.jobs.drop (position + 1), ?_, ?_⟩
  · rw [List.getElem_cons_drop, List.take_append_drop]
  · rw [change, List.set_eq_take_cons_drop _ hLt]

theorem cancelLast_cases (jobs : List PoolJob) :
    (cancelLast jobs).1 = jobs ∨ ∃ earlier last, jobs = earlier ++ [last] ∧
      last.state = .pending ∧ (cancelLast jobs).1 = earlier ++ [last.cancel] := by
  unfold cancelLast
  split
  · rename_i last hLast
    split
    · rename_i hPending
      obtain ⟨earlier, rfl⟩ := List.getLast?_eq_some_iff.mp hLast
      exact .inr ⟨earlier, last, rfl, eq_of_beq hPending, by simp⟩
    · exact .inl rfl
  · exact .inl rfl

theorem map_job_cancelLast (jobs : List PoolJob) :
    (cancelLast jobs).1.map PoolJob.job = jobs.map PoolJob.job := by
  obtain hSame | ⟨earlier, last, rfl, -, hCancelled⟩ := cancelLast_cases jobs
  · rw [hSame]
  · rw [hCancelled, List.map_append, List.map_append]
    rfl

theorem isSound_of_mem_cancelLast (h : ∀ entry ∈ jobs, entry.IsSound) :
    ∀ entry ∈ (cancelLast jobs).1, entry.IsSound := by
  obtain hSame | ⟨earlier, last, rfl, hPending, hCancelled⟩ := cancelLast_cases jobs
  · rwa [hSame]
  · rw [List.forall_mem_append, List.forall_mem_singleton] at h
    rw [hCancelled, List.forall_mem_append, List.forall_mem_singleton]
    exact ⟨h.1, h.2.cancel hPending⟩

/-- What the last job is does not depend on the others. -/
theorem getLast?_changed (hJobs : jobs = earlier ++ entry :: later) (hLater : later ≠ [])
    (other : PoolJob) : (earlier ++ other :: later).getLast? = jobs.getLast? := by
  rw [hJobs]
  cases later with
  | nil => exact absurd rfl hLater
  | cons next rest =>
    rw [List.getLast?_append_cons, List.getLast?_append_cons, List.getLast?_cons_cons,
      List.getLast?_cons_cons]

/-- The jobs that are done, in the order in which they were taken on. -/
def outcomes (jobs : List PoolJob) : List (Job × Option (Except Failure Delivery)) :=
  jobs.filterMap PoolJob.outcome?

theorem mem_outcomes_iff {job : Job} {unheard : Option (Except Failure Delivery)} :
    (job, unheard) ∈ outcomes jobs ↔
      ∃ entry ∈ jobs, entry.state = .done ∧ entry.job = job ∧ entry.unheard = unheard := by
  rw [outcomes, List.mem_filterMap]
  refine exists_congr fun entry => and_congr_right fun _ => ?_
  rw [PoolJob.outcome?, Option.ite_none_right_eq_some, Option.some.injEq, Prod.mk.injEq]

theorem outcomes_append (jobs others : List PoolJob) :
    outcomes (jobs ++ others) = outcomes jobs ++ outcomes others :=
  List.filterMap_append

theorem mem_outcomes_middle {outcome : Job × Option (Except Failure Delivery)} :
    outcome ∈ outcomes (earlier ++ entry :: later) ↔
      entry.outcome? = some outcome ∨ outcome ∈ outcomes (earlier ++ later) := by
  simp only [outcomes, List.mem_filterMap, List.mem_append, List.mem_cons, or_and_right, exists_or,
    exists_eq_left]
  exact or_left_comm

theorem outcomes_changed {changed : PoolJob} (h : changed.outcome? = entry.outcome?) :
    outcomes (earlier ++ changed :: later) = outcomes (earlier ++ entry :: later) := by
  rw [outcomes_append, outcomes_append, outcomes, outcomes, outcomes, List.filterMap_cons,
    List.filterMap_cons, h]

theorem outcomes_cancelLast (jobs : List PoolJob) :
    outcomes (cancelLast jobs).1 = outcomes jobs := by
  obtain hSame | ⟨earlier, last, rfl, hPending, hCancelled⟩ := cancelLast_cases jobs
  · rw [hSame]
  · have hUnsettled : last.state.isSettled = false := congrArg JobState.isSettled hPending
    rw [hCancelled]
    refine outcomes_changed ?_
    rw [PoolJob.outcome?_of_unsettled hUnsettled]
    rfl

def doneJobs (jobs : List PoolJob) : List Job := (outcomes jobs).map Prod.fst

theorem mem_doneJobs_iff {job : Job} :
    job ∈ doneJobs jobs ↔ ∃ unheard, (job, unheard) ∈ outcomes jobs := by
  rw [doneJobs, List.mem_map]
  constructor
  · rintro ⟨⟨_, unheard⟩, hMem, rfl⟩
    exact ⟨unheard, hMem⟩
  · rintro ⟨unheard, hMem⟩
    exact ⟨_, hMem, rfl⟩

end Pool

namespace Workshop

/-- What happens in and around a workshop with a pool: a document is drawn, or it is the turn of a
job of the pool. -/
inductive Turn where
  | draw (document : Json)
  | start (index : Int)
  | work (index : Int)
  | hear (index : Int)
  | release (index : Int)

def Turn.isDraw : Turn → Bool
  | .draw _ => true
  | .start _ | .work _ | .hear _ | .release _ => false

def turn (workshop : Workshop) : Turn → Workshop × List Event
  | .draw document => ((workshop.draw document).state, (workshop.draw document).events)
  | .start index => ((workshop.start index).state, (workshop.start index).events)
  | .work index => ((workshop.work index).state, (workshop.work index).events)
  | .hear index => ((workshop.hear index).state, (workshop.hear index).events)
  | .release index => ((workshop.release index).state, (workshop.release index).events)

def after (workshop : Workshop) : List Turn → Workshop
  | [] => workshop
  | first :: rest => (workshop.turn first).1.after rest

/-- Everything that is reported on the way. -/
def log (workshop : Workshop) : List Turn → List Event
  | [] => []
  | first :: rest => (workshop.turn first).2 ++ (workshop.turn first).1.log rest

/-- All jobs that the pool has ever taken on. -/
def jobs (workshop : Workshop) : List Job := workshop.pool.jobs.map PoolJob.job

variable {workshop : Workshop}

theorem after_append (workshop : Workshop) (turns others : List Turn) :
    workshop.after (turns ++ others) = (workshop.after turns).after others := by
  induction turns generalizing workshop with
  | nil => rfl
  | cons first rest ih => exact ih _

theorem log_append (workshop : Workshop) (turns others : List Turn) :
    workshop.log (turns ++ others) = workshop.log turns ++ (workshop.after turns).log others := by
  induction turns generalizing workshop with
  | nil => rfl
  | cons first rest ih =>
    rw [List.cons_append, log, log, ih, List.append_assoc]
    rfl

theorem after_concat (workshop : Workshop) (turns : List Turn) (turn : Turn) :
    workshop.after (turns ++ [turn]) = ((workshop.after turns).turn turn).1 :=
  after_append workshop turns [turn]

theorem log_concat (workshop : Workshop) (turns : List Turn) (turn : Turn) :
    workshop.log (turns ++ [turn]) =
      workshop.log turns ++ ((workshop.after turns).turn turn).2 := by
  rw [log_append, log, log, List.append_nil]

/-- Drawing passes a job on to the pool or leaves the pool as it is. -/
theorem draw_cases (hPooled : workshop.delegation = .pooled)
    (hOpen : workshop.pool.isClosed = false) (document : Json) :
    (∃ session shown, (workshop.draw document).state = { workshop with session, shown } ∧
      (session.latest = none ∨ session.latest = workshop.session.latest) ∧
      session.tickets.nth = workshop.session.tickets.nth ∧
      workshop.session.tickets.taken ≤ session.tickets.taken ∧
      session.notifies = workshop.session.notifies ∧ session.updates = workshop.session.updates ∧
      (∀ preview job, workshop.session.answer document ≠ .ok (preview, some job)) ∧
      (workshop.draw document).events = (workshop.session.draw document).events) ∨
    (∃ preview job ids, workshop.session.answer document = .ok (preview, some job) ∧
      job.ticket = workshop.session.tickets.peek ∧
      (workshop.draw document).state =
        { workshop with
          session :=
            { workshop.session with
              nodeIds := ids
              tickets := workshop.session.tickets.next
              outline := preview
              latest := some job.ticket }
          shown := none
          pool := ⟨(Pool.cancelLast workshop.pool.jobs).1 ++ [.ofJob job], false⟩ } ∧
      ∃ cancelled : Bool, (workshop.draw document).events =
        (workshop.session.draw document).events ++
          (if cancelled then [Event.superseded] else []) ++ [.submitted job.ticket]) := by
  obtain ⟨failure, ids, tickets, hAnswer, hResult, hTickets, hState⟩ |
    ⟨outline, ids, hAnswer, hResult, hState⟩ |
    ⟨outline, job, ids, hAnswer, hResult, hTicket, hState⟩ :=
    workshop.session.draw_cases document
  · refine .inl ⟨(workshop.session.draw document).state, workshop.shown, ?_⟩
    obtain rfl | rfl := hTickets <;>
      simp [draw, hResult, hAnswer, hState, IdSource.next]
  · refine .inl ⟨(workshop.session.draw document).state, none, ?_⟩
    simp [draw, hResult, hAnswer, hState]
  · refine .inr ⟨outline, job, ids, hAnswer, hTicket, ?_⟩
    simp only [draw, hResult, hState, delegate, hPooled, Pool.submit, hOpen, Bool.false_eq_true,
      if_false]
    exact ⟨trivial, _, (List.append_assoc _ _ _).symm⟩

theorem getElem?_of_item {α : Type} {items : List α} {index : Int} {position : Nat} {found : α}
    (h : item items index = .ok (position, found)) : items[position]? = some found := by
  unfold item at h
  cases hPosition : Workshop.position items.length index with
  | error failure =>
    rw [hPosition] at h
    cases h
  | ok i =>
    rw [hPosition] at h
    simp only [bind, Except.bind] at h
    split at h
    · rename_i hFound
      cases h
      exact hFound
    · cases h

/-- Starting a job sets a pending one running, if anything. -/
theorem start_cases (workshop : Workshop) (index : Int) :
    (workshop.start index).events = [] ∧ ((workshop.start index).state = workshop ∨
      ∃ earlier entry later, workshop.pool.jobs = earlier ++ entry :: later ∧
        entry.state = .pending ∧
        (workshop.start index).state =
          { workshop with
            pool := { workshop.pool with jobs := earlier ++ entry.start :: later } }) := by
  unfold start
  cases hItem : item workshop.pool.jobs index with
  | error failure => exact ⟨rfl, .inl rfl⟩
  | ok found =>
    obtain ⟨position, entry⟩ := found
    dsimp only
    split
    · rename_i hPending
      obtain ⟨earlier, later, hJobs, hChange⟩ :=
        Pool.exists_change (getElem?_of_item hItem) entry.start
      rw [hChange]
      exact ⟨rfl, .inr ⟨earlier, entry, later, hJobs, eq_of_beq hPending, rfl⟩⟩
    · exact ⟨rfl, .inl rfl⟩

theorem runJob_eq (workshop : Workshop) (job : Job) :
    (workshop.runJob job).result = (job.run workshop.ids).1 ∧
      (workshop.runJob job).state = { workshop with ids := (job.run workshop.ids).2 } ∧
      ∀ event ∈ (workshop.runJob job).events, event.IsInternal := by
  unfold runJob
  rcases job.run workshop.ids with ⟨failure | delivery, ids⟩
  · exact ⟨rfl, rfl, List.forall_mem_nil _⟩
  · exact ⟨rfl, rfl, List.forall_mem_singleton.mpr ⟨rfl, rfl, rfl⟩⟩

/-- A job that comes to its end keeps what it has come to. Nobody is told yet. -/
theorem work_cases (workshop : Workshop) (index : Int) :
    (∀ event ∈ (workshop.work index).events, event.IsInternal) ∧
      ((workshop.work index).state = workshop ∨
      ∃ earlier entry later, workshop.pool.jobs = earlier ++ entry :: later ∧
        entry.state.isSettled = false ∧
        (workshop.work index).state =
          { workshop with
            pool :=
              { workshop.pool with
                jobs := earlier ++ entry.settle (entry.job.run workshop.ids).1 :: later }
            ids := (entry.job.run workshop.ids).2 }) := by
  unfold work
  cases hItem : item workshop.pool.jobs index with
  | error failure => exact ⟨List.forall_mem_nil _, .inl rfl⟩
  | ok found =>
    obtain ⟨position, entry⟩ := found
    dsimp only
    split
    · exact ⟨List.forall_mem_nil _, .inl rfl⟩
    · rename_i hSettled
      obtain ⟨hResult, hState, hInternal⟩ := workshop.runJob_eq entry.job
      obtain ⟨earlier, later, hJobs, hChange⟩ :=
        Pool.exists_change (getElem?_of_item hItem) (entry.settle (entry.job.run workshop.ids).1)
      rw [hResult, hState, hChange]
      refine ⟨?_, .inr ⟨earlier, entry, later, hJobs, Bool.eq_false_iff.mpr hSettled, rfl⟩⟩
      split
      · exact List.forall_mem_nil _
      · exact hInternal

/-- A result that nobody has heard of is taken or reported, whichever it is. -/
theorem hear_cases (workshop : Workshop) (index : Int) :
    ((workshop.hear index).state = workshop ∧ (workshop.hear index).events = []) ∨
    ∃ earlier entry later, workshop.pool.jobs = earlier ++ entry :: later ∧
      ((∃ failure, entry.unheard = some (.error failure) ∧
        (workshop.hear index).state =
          { workshop with
            pool := { workshop.pool with jobs := earlier ++ entry.hear :: later } } ∧
        (workshop.hear index).events = [.jobFailed failure]) ∨
      (∃ delivery shown, entry.unheard = some (.ok delivery) ∧
        (workshop.hear index).state =
          { workshop with
            session := (workshop.session.receive delivery).state
            pool := { workshop.pool with jobs := earlier ++ entry.hear :: later }
            shown } ∧
        (workshop.hear index).events = (workshop.session.receive delivery).events)) := by
  unfold hear
  cases hItem : item workshop.pool.jobs index with
  | error failure => exact .inl ⟨rfl, rfl⟩
  | ok found =>
    obtain ⟨position, entry⟩ := found
    obtain ⟨earlier, later, hJobs, hChange⟩ :=
      Pool.exists_change (getElem?_of_item hItem) entry.hear
    dsimp only
    rw [hChange]
    cases hUnheard : entry.unheard with
    | none => exact .inl ⟨rfl, rfl⟩
    | some result =>
      refine .inr ⟨earlier, entry, later, hJobs, ?_⟩
      cases result with
      | error failure => exact .inl ⟨failure, hUnheard, rfl, rfl⟩
      | ok delivery => exact .inr ⟨delivery, _, hUnheard, rfl, rfl⟩

/-- Only the flag of a job is set that has been heard of. -/
theorem release_cases (workshop : Workshop) (index : Int) :
    (workshop.release index).events = [] ∧ ((workshop.release index).state = workshop ∨
      ∃ earlier entry later, workshop.pool.jobs = earlier ++ entry :: later ∧
        (entry.state = .done ∧ entry.unheard = none ∧ entry.delivered = false) ∧
        (workshop.release index).state =
          { workshop with
            pool := { workshop.pool with jobs := earlier ++ entry.release :: later } }) := by
  unfold release
  cases hItem : item workshop.pool.jobs index with
  | error failure => exact ⟨rfl, .inl rfl⟩
  | ok found =>
    obtain ⟨position, entry⟩ := found
    dsimp only
    split
    · rename_i hHeard
      obtain ⟨earlier, later, hJobs, hChange⟩ :=
        Pool.exists_change (getElem?_of_item hItem) entry.release
      rw [hChange]
      exact ⟨rfl, .inr ⟨earlier, entry, later, hJobs, PoolJob.isHeard_iff.mp hHeard, rfl⟩⟩
    · exact ⟨rfl, .inl rfl⟩

/-- A job that is finished has all its turns, with nothing else between them. -/
theorem finish_eq_after {index : Int} (h : (workshop.work index).result = .ok true) :
    (workshop.finish index).state = workshop.after [.work index, .hear index, .release index] ∧
      (workshop.finish index).events =
        workshop.log [.work index, .hear index, .release index] := by
  simp only [finish, h, after, log, turn, List.append_nil, List.append_assoc]
  exact ⟨trivial, trivial⟩

end Workshop

end SchemaOutline
