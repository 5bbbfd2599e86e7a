import Mathlib.Data.List.Induction
import SchemaOutline.Proofs.Identifier
import SchemaOutline.Proofs.Session.Coherence

/-!
# Waiting for jobs

Whatever is drawn and in whatever order the jobs of a pool advance, waiting for the last of them is
sound (`waitsSoundly_after`): that job is never cancelled, each job is delivered once at most, a
flag is set only after the job has been heard of, and when the wait is over then what the last job
has delivered is shown and stays.
-/

set_option autoImplicit false

namespace SchemaOutline

namespace Workshop

/-- The tickets of all deliveries that are handed over, in order. -/
def receipts (workshop : Workshop) (turns : List Turn) : List String :=
  (workshop.log turns).filterMap Event.receipt?

theorem receipts_concat (start : Workshop) (turns : List Turn) (turn : Turn) :
    start.receipts (turns ++ [turn]) = start.receipts turns ++
      ((start.after turns).turn turn).2.filterMap Event.receipt? := by
  rw [receipts, log_concat, List.filterMap_append, receipts]

/-- What is reported of a job when it has been run. -/
def Tells (log : List Event) : Except Failure Delivery → Prop
  | .ok delivery => delivery.ticket ∈ log.filterMap Event.receipt?
  | .error failure => .jobFailed failure ∈ log

theorem Tells.mono {log others : List Event} {result : Except Failure Delivery}
    (h : Tells log result) (hSubset : log ⊆ others) : Tells others result := by
  cases result with
  | ok delivery =>
    obtain ⟨event, hMem, hEvent⟩ := List.mem_filterMap.mp h
    exact List.mem_filterMap.mpr ⟨event, hSubset hMem, hEvent⟩
  | error failure => exact hSubset h

/-- A job has come to its end, and what it came to is kept or has been told. -/
def Accounts (start : Workshop) (turns : List Turn) (job : Job)
    (unheard : Option (Except Failure Delivery)) : Prop :=
  ∃ early, start.Ends turns early job ∧
    (unheard = some (job.run (start.after early).ids).1 ∨
      unheard = none ∧ Tells (start.log turns) (job.run (start.after early).ids).1)

theorem Accounts.append {start : Workshop} {turns : List Turn} {job : Job}
    {unheard : Option (Except Failure Delivery)} (h : start.Accounts turns job unheard)
    (others : List Turn) : start.Accounts (turns ++ others) job unheard := by
  obtain ⟨early, hEarly, hKept | ⟨hHeard, hTells⟩⟩ := h
  · exact ⟨early, hEarly.append others, .inl hKept⟩
  · refine ⟨early, hEarly.append others, .inr ⟨hHeard, hTells.mono ?_⟩⟩
    rw [log_append]
    exact List.subset_append_left _ _

/-- The reports agree with the pool. -/
structure Reports (start : Workshop) (turns : List Turn) : Prop where
  submitted : (start.log turns).filterMap Event.submission? =
    (start.after turns).jobs.map Job.ticket
  handedOnce : (start.receipts turns).Nodup
  handed : ∀ ticket ∈ start.receipts turns,
    ∃ job, (job, none) ∈ Pool.outcomes (start.after turns).pool.jobs ∧ job.ticket = ticket
  accounts : ∀ job unheard, (job, unheard) ∈ Pool.outcomes (start.after turns).pool.jobs →
    start.Accounts turns job unheard
  notifies : (start.after turns).session.notifies = start.session.notifies
  updates : (start.after turns).session.updates = start.session.updates ++
    if start.session.notifies then (start.log turns).filterMap Event.update? else []

namespace Reports

variable {start : Workshop} {turns : List Turn}

/-- A turn keeps the agreement if its own reports agree with what it does to the pool. -/
theorem step (h : start.Reports turns) {turn : Turn} {workshop : Workshop} {events : List Event}
    (hTurn : (start.after turns).turn turn = (workshop, events))
    (hJobs : workshop.jobs.map Job.ticket =
      (start.after turns).jobs.map Job.ticket ++ events.filterMap Event.submission?)
    (hOnce : (start.receipts turns ++ events.filterMap Event.receipt?).Nodup)
    (hHanded : ∀ ticket ∈ events.filterMap Event.receipt?,
      ∃ job, (job, none) ∈ Pool.outcomes workshop.pool.jobs ∧ job.ticket = ticket)
    (hHeard : ∀ job, (job, none) ∈ Pool.outcomes (start.after turns).pool.jobs →
      (job, none) ∈ Pool.outcomes workshop.pool.jobs)
    (hOutcomes : ∀ job unheard, (job, unheard) ∈ Pool.outcomes workshop.pool.jobs →
      (job, unheard) ∈ Pool.outcomes (start.after turns).pool.jobs ∨
        start.Accounts (turns ++ [turn]) job unheard)
    (hNotifies : workshop.session.notifies = (start.after turns).session.notifies)
    (hTold : workshop.session.updates = (start.after turns).session.updates ++
      if (start.after turns).session.notifies then events.filterMap Event.update? else []) :
    start.Reports (turns ++ [turn]) := by
  have hAfter : start.after (turns ++ [turn]) = workshop := by rw [after_concat, hTurn]
  have hLog : start.log (turns ++ [turn]) = start.log turns ++ events := by rw [log_concat, hTurn]
  have hReceipts : start.receipts (turns ++ [turn]) =
      start.receipts turns ++ events.filterMap Event.receipt? := by
    rw [receipts_concat, hTurn]
  refine ⟨?_, hReceipts ▸ hOnce, ?_, ?_, ?_, ?_⟩
  · rw [hLog, hAfter, List.filterMap_append, h.submitted, hJobs]
  · rw [hReceipts, hAfter, List.forall_mem_append]
    refine ⟨fun ticket hMem => ?_, hHanded⟩
    obtain ⟨job, hJob, hTicket⟩ := h.handed ticket hMem
    exact ⟨job, hHeard job hJob, hTicket⟩
  · rw [hAfter]
    intro job unheard hMem
    obtain hOld | hNew := hOutcomes job unheard hMem
    · exact (h.accounts job unheard hOld).append [turn]
    · exact hNew
  · rw [hAfter, hNotifies, h.notifies]
  · rw [hAfter, hLog, List.filterMap_append, hTold, h.updates, h.notifies]
    cases start.session.notifies <;> simp

/-- Nothing is handed over, and no job has come further that was done or is done now. -/
theorem quiet (h : start.Reports turns) {turn : Turn} {workshop : Workshop} {events : List Event}
    (hTurn : (start.after turns).turn turn = (workshop, events))
    (hReceipts : events.filterMap Event.receipt? = [])
    (hUpdates : events.filterMap Event.update? = [])
    (hJobs : workshop.jobs.map Job.ticket =
      (start.after turns).jobs.map Job.ticket ++ events.filterMap Event.submission?)
    (hOutcomes : Pool.outcomes workshop.pool.jobs =
      Pool.outcomes (start.after turns).pool.jobs)
    (hNotifies : workshop.session.notifies = (start.after turns).session.notifies)
    (hTold : workshop.session.updates = (start.after turns).session.updates) :
    start.Reports (turns ++ [turn]) := by
  refine h.step hTurn hJobs ?_ ?_ ?_ ?_ hNotifies ?_
  · rw [hReceipts, List.append_nil]
    exact h.handedOnce
  · rw [hReceipts]
    exact List.forall_mem_nil _
  · rw [hOutcomes]
    exact fun _ hMem => hMem
  · rw [hOutcomes]
    exact fun _ _ hMem => .inl hMem
  · rw [hUpdates, ite_self, List.append_nil, hTold]

theorem draw (h : start.Reports turns) (hCoherent : (start.after turns).Coherent)
    (document : Json) : start.Reports (turns ++ [.draw document]) := by
  have hInternal {α : Type} (f : Event → Option α)
      (hf : ∀ event, event.IsInternal → f event = none) :
      ((start.after turns).session.draw document).events.filterMap f = [] :=
    List.filterMap_eq_nil_iff.mpr fun event hMem => hf event (Session.isInternal_of_mem_draw hMem)
  have hReceipts := hInternal Event.receipt? fun _ h => h.1
  have hSubmitted := hInternal Event.submission? fun _ h => h.2.1
  have hUpdates := hInternal Event.update? fun _ h => h.2.2
  obtain ⟨session, shown, hState, -, -, -, hNotifies, hTold, -, hEvents⟩ |
    ⟨preview, job, ids, -, -, hState, cancelled, hEvents⟩ :=
    draw_cases hCoherent.pooled hCoherent.isOpen document
  · refine h.quiet (Prod.ext hState hEvents) hReceipts hUpdates ?_ rfl hNotifies hTold
    rw [hSubmitted, List.append_nil]
    rfl
  · refine h.quiet (Prod.ext hState hEvents) ?_ ?_ ?_ ?_ rfl rfl
    · rw [List.filterMap_append, List.filterMap_append, hReceipts]
      cases cancelled <;> rfl
    · rw [List.filterMap_append, List.filterMap_append, hUpdates]
      cases cancelled <;> rfl
    · rw [List.filterMap_append, List.filterMap_append, hSubmitted, jobs, List.map_append,
        Pool.map_job_cancelLast, List.map_append]
      cases cancelled <;> rfl
    · rw [Pool.outcomes_append, Pool.outcomes_cancelLast]
      exact List.append_nil _

theorem begin (h : start.Reports turns) (index : Int) :
    start.Reports (turns ++ [.start index]) := by
  obtain ⟨hEvents, hState | ⟨earlier, entry, later, hJobs, hPending, hState⟩⟩ :=
    start_cases (start.after turns) index
  · exact h.quiet (Prod.ext hState hEvents) rfl rfl (List.append_nil _).symm rfl rfl rfl
  · refine h.quiet (Prod.ext hState hEvents) rfl rfl ?_ ?_ rfl rfl
    · rw [jobs, jobs, hJobs]
      simp [PoolJob.start]
    · have hUnsettled : entry.state.isSettled = false := congrArg JobState.isSettled hPending
      rw [hJobs]
      refine Pool.outcomes_changed ?_
      rw [PoolJob.outcome?_of_unsettled hUnsettled]
      rfl

/-- One job more is done, and what it came to is kept. -/
theorem work (h : start.Reports turns) (hCoherent : (start.after turns).Coherent) (index : Int) :
    start.Reports (turns ++ [.work index]) := by
  obtain ⟨hInternal, hWork⟩ := work_cases (start.after turns) index
  generalize hEvents : ((start.after turns).work index).events = events at hInternal
  have hNone {α : Type} (f : Event → Option α)
      (hf : ∀ event, event.IsInternal → f event = none) : events.filterMap f = [] :=
    List.filterMap_eq_nil_iff.mpr fun event hMem => hf event (hInternal event hMem)
  have hReceipts := hNone Event.receipt? fun _ h => h.1
  have hSubmitted := hNone Event.submission? fun _ h => h.2.1
  have hUpdates := hNone Event.update? fun _ h => h.2.2
  obtain hState | ⟨earlier, entry, later, hJobs, hEntry, hState⟩ := hWork
  · refine h.quiet (Prod.ext hState hEvents) hReceipts hUpdates ?_ rfl rfl rfl
    rw [hSubmitted, List.append_nil]
  · refine h.step (Prod.ext hState hEvents) ?_ ?_ ?_ ?_ ?_ rfl ?_
    · rw [hSubmitted, List.append_nil, jobs, jobs, hJobs]
      simp [PoolJob.settle]
    · rw [hReceipts, List.append_nil]
      exact h.handedOnce
    · rw [hReceipts]
      exact List.forall_mem_nil _
    · intro job hMem
      rw [hJobs, Pool.mem_outcomes_middle, PoolJob.outcome?_of_unsettled hEntry] at hMem
      obtain hEntry | hOld := hMem
      · cases hEntry
      · exact Pool.mem_outcomes_middle.mpr (.inr hOld)
    · intro job unheard hMem
      obtain hSettled | hOld := Pool.mem_outcomes_middle.mp hMem
      · rw [PoolJob.outcome?_of_done rfl] at hSettled
        cases hSettled
        have hAfter := congrArg (fun workshop => workshop.pool.jobs)
          ((after_concat start turns (.work index)).trans hState)
        have hEnds := hCoherent.ends hJobs hEntry hAfter
        exact .inr ⟨turns, hEnds, .inl rfl⟩
      · rw [hJobs]
        exact .inl (Pool.mem_outcomes_middle.mpr (.inr hOld))
    · rw [hUpdates, ite_self, List.append_nil]

/-- What a job has come to is told, and it was not told before. -/
theorem told (h : start.Reports turns) (hCoherent : (start.after turns).Coherent) {index : Int}
    {workshop : Workshop} {events : List Event} {earlier later : List PoolJob} {entry : PoolJob}
    {result : Except Failure Delivery}
    (hTurn : (start.after turns).turn (.hear index) = (workshop, events))
    (hJobs : (start.after turns).pool.jobs = earlier ++ entry :: later)
    (hUnheard : entry.unheard = some result)
    (hOther : workshop.pool.jobs = earlier ++ entry.hear :: later)
    (hReceipts : ∀ ticket ∈ events.filterMap Event.receipt?, ticket = entry.job.ticket)
    (hOnce : (events.filterMap Event.receipt?).Nodup)
    (hSubmitted : events.filterMap Event.submission? = []) (hTells : Tells events result)
    (hNotifies : workshop.session.notifies = (start.after turns).session.notifies)
    (hTold : workshop.session.updates = (start.after turns).session.updates ++
      if (start.after turns).session.notifies then events.filterMap Event.update? else []) :
    start.Reports (turns ++ [.hear index]) := by
  have hDone : entry.state = .done :=
    (hCoherent.isSound hJobs).ended (by rw [hUnheard]; exact Option.some_ne_none _)
  have hOutcome : entry.outcome? = some (entry.job, some result) := by
    rw [PoolJob.outcome?_of_done hDone, hUnheard]
  have hHeard : entry.hear.outcome? = some (entry.job, none) := PoolJob.outcome?_of_done hDone
  have hFresh : entry.job.ticket ∉ start.receipts turns := by
    intro hMem
    obtain ⟨job, hJob, hTicket⟩ := h.handed _ hMem
    cases hOutcome.symm.trans (hCoherent.outcome?_of_ticket hJobs hJob hTicket)
  refine h.step hTurn ?_ ?_ ?_ ?_ ?_ hNotifies hTold
  · rw [hSubmitted, List.append_nil, jobs, jobs, hJobs, hOther]
    simp [PoolJob.hear]
  · refine List.nodup_append.mpr ⟨h.handedOnce, hOnce, fun old hOld new hNew hSame => ?_⟩
    rw [hSame, hReceipts new hNew] at hOld
    exact hFresh hOld
  · intro ticket hMem
    rw [hReceipts ticket hMem, hOther]
    exact ⟨entry.job, Pool.mem_outcomes_middle.mpr (.inl hHeard), rfl⟩
  · intro job hMem
    rw [hJobs, Pool.mem_outcomes_middle, hOutcome] at hMem
    obtain hEntry | hOld := hMem
    · cases hEntry
    · rw [hOther]
      exact Pool.mem_outcomes_middle.mpr (.inr hOld)
  · intro job unheard hMem
    rw [hOther, Pool.mem_outcomes_middle, hHeard] at hMem
    obtain hEntry | hOld := hMem
    · cases hEntry
      have hMem : (entry.job, some result) ∈ Pool.outcomes (start.after turns).pool.jobs := by
        rw [hJobs]
        exact Pool.mem_outcomes_middle.mpr (.inl hOutcome)
      obtain ⟨early, hEarly, hKept | ⟨hNone, -⟩⟩ := h.accounts _ _ hMem
      · refine .inr ⟨early, hEarly.append _, .inr ⟨rfl, ?_⟩⟩
        rw [← Option.some.inj hKept, log_concat, hTurn]
        exact hTells.mono (List.subset_append_right _ _)
      · cases hNone
    · rw [hJobs]
      exact .inl (Pool.mem_outcomes_middle.mpr (.inr hOld))

theorem hear (h : start.Reports turns) (hCoherent : (start.after turns).Coherent) (index : Int) :
    start.Reports (turns ++ [.hear index]) := by
  obtain ⟨hState, hEvents⟩ | ⟨earlier, entry, later, hJobs,
    ⟨failure, hUnheard, hState, hEvents⟩ | ⟨delivery, shown, hUnheard, hState, hEvents⟩⟩ :=
    hear_cases (start.after turns) index
  · exact h.quiet (Prod.ext hState hEvents) rfl rfl (List.append_nil _).symm rfl rfl rfl
  · refine h.told hCoherent (Prod.ext hState hEvents) hJobs hUnheard rfl (List.forall_mem_nil _)
      List.nodup_nil rfl (List.mem_singleton_self _) rfl ?_
    simp [Event.update?]
  · obtain ⟨hReceipts, hSubmitted, outline, hReceive⟩ :=
      (start.after turns).session.receive_reports delivery
    have hTicket := (hCoherent.isSound hJobs).ticket delivery hUnheard
    have hNotifies := congrArg Session.notifies hReceive
    have hUpdates := congrArg Session.updates hReceive
    refine h.told hCoherent (Prod.ext hState hEvents) hJobs hUnheard rfl ?_ ?_ hSubmitted ?_
      hNotifies hUpdates
    · rw [hReceipts, ← hTicket]
      exact List.forall_mem_singleton.mpr rfl
    · rw [hReceipts]
      exact List.nodup_singleton _
    · rw [Tells, hReceipts]
      exact List.mem_singleton_self _

theorem release (h : start.Reports turns) (index : Int) :
    start.Reports (turns ++ [.release index]) := by
  obtain ⟨hEvents, hState | ⟨earlier, entry, later, hJobs, -, hState⟩⟩ :=
    release_cases (start.after turns) index
  · exact h.quiet (Prod.ext hState hEvents) rfl rfl (List.append_nil _).symm rfl rfl rfl
  · refine h.quiet (Prod.ext hState hEvents) rfl rfl ?_ ?_ rfl rfl
    · rw [jobs, jobs, hJobs]
      simp [PoolJob.release]
    · rw [hJobs]
      exact Pool.outcomes_changed rfl

theorem after (hCoherent : start.Coherent) (hPool : start.pool.jobs = []) (turns : List Turn) :
    start.Reports turns := by
  induction turns using List.reverseRecOn with
  | nil =>
    refine ⟨?_, List.nodup_nil, List.forall_mem_nil _, ?_, rfl, ?_⟩
    · rw [Workshop.after, jobs, hPool]
      rfl
    · rw [Workshop.after, hPool]
      intro job unheard hMem
      cases hMem
    · cases start.session.notifies <;> simp [Workshop.after, log]
  | append_singleton turns turn ih =>
    have hCoherent := hCoherent.after turns
    cases turn with
    | draw document => exact ih.draw hCoherent document
    | start index => exact ih.begin index
    | work index => exact ih.work hCoherent index
    | hear index => exact ih.hear hCoherent index
    | release index => exact ih.release index

end Reports

/-- The outline in the end: what the job has delivered, or the preview if it has failed. -/
def shownAfter (preview : Outline) : Except Failure Delivery → Outline
  | .ok delivery => delivery.outline
  | .error _ => preview

/-- The last document to be drawn was shown as a preview, and the job for the whole of it is the
last one of the pool. The preview is shown until somebody has heard what the job has come to. -/
structure Awaits (start : Workshop) (turns : List Turn) (preview : Outline) (job : Job) : Prop where
  latest : (start.after turns).session.latest = some job.ticket
  last : ∃ last, (start.after turns).pool.jobs.getLast? = some last ∧ last.job = job ∧
    (last.state.isSettled = false → (start.after turns).session.outline = preview) ∧
    (last.state = .done → ∃ early, start.Ends turns early job ∧
      (last.unheard = some (job.run (start.after early).ids).1 ∧
          (start.after turns).session.outline = preview ∨
        last.unheard = none ∧ (start.after turns).session.outline =
          shownAfter preview (job.run (start.after early).ids).1))

namespace Awaits

variable {start : Workshop} {turns : List Turn} {preview : Outline} {job : Job}

theorem of_answer (hCoherent : (start.after turns).Coherent) {document : Json}
    (hAnswer : (start.after turns).session.answer document = .ok (preview, some job)) :
    start.Awaits (turns ++ [.draw document]) preview job := by
  obtain ⟨session, shown, -, -, -, -, -, -, hNone, -⟩ |
    ⟨preview', job', ids, hAnswer', -, hState, -⟩ :=
    draw_cases hCoherent.pooled hCoherent.isOpen document
  · exact absurd hAnswer (hNone preview job)
  · rw [hAnswer] at hAnswer'
    cases hAnswer'
    have hAfter : start.after (turns ++ [.draw document]) = _ := (after_concat _ _ _).trans hState
    refine ⟨by rw [hAfter], .ofJob job, ?_, rfl, fun _ => by rw [hAfter], nofun⟩
    rw [hAfter, List.getLast?_concat]

/-- The preview stands as it did where neither the session nor the last job changes. -/
theorem kept (h : start.Awaits turns preview job) {turn : Turn} {workshop : Workshop}
    (hAfter : start.after (turns ++ [turn]) = workshop)
    (hSession : workshop.session = (start.after turns).session)
    (hSame : workshop.pool.jobs.getLast? = (start.after turns).pool.jobs.getLast?) :
    start.Awaits (turns ++ [turn]) preview job := by
  obtain ⟨hLatest, last, hLast, hJob, hPreview, hDone⟩ := h
  subst hAfter
  refine ⟨hSession ▸ hLatest, last, hSame.trans hLast, hJob, hSession ▸ hPreview, ?_⟩
  intro hState
  obtain ⟨early, hEarly, hShown⟩ := hDone hState
  exact ⟨early, hEarly.append _, hSession ▸ hShown⟩

theorem begin (h : start.Awaits turns preview job) (index : Int) :
    start.Awaits (turns ++ [.start index]) preview job := by
  have hAfter := after_concat start turns (.start index)
  obtain ⟨-, hState | ⟨earlier, entry, later, hJobs, hPending, hState⟩⟩ :=
    start_cases (start.after turns) index
  · exact h.kept (hAfter.trans hState) rfl rfl
  · replace hAfter := hAfter.trans hState
    by_cases hLater : later = []
    · subst hLater
      obtain ⟨hLatest, last, hLast, hJob, hPreview, -⟩ := h
      rw [hJobs, List.getLast?_concat] at hLast
      cases hLast
      refine ⟨hAfter ▸ hLatest, entry.start, ?_, hJob, fun _ => ?_, nofun⟩
      · rw [hAfter, List.getLast?_concat]
      · rw [hAfter]
        exact hPreview (congrArg JobState.isSettled hPending)
    · exact h.kept hAfter rfl (Pool.getLast?_changed hJobs hLater _)

theorem work (h : start.Awaits turns preview job) (hCoherent : (start.after turns).Coherent)
    (index : Int) : start.Awaits (turns ++ [.work index]) preview job := by
  have hAfter := after_concat start turns (.work index)
  obtain ⟨-, hState | ⟨earlier, entry, later, hJobs, hEntry, hState⟩⟩ :=
    work_cases (start.after turns) index
  · exact h.kept (hAfter.trans hState) rfl rfl
  · replace hAfter := hAfter.trans hState
    by_cases hLater : later = []
    · subst hLater
      obtain ⟨hLatest, last, hLast, rfl, hPreview, -⟩ := h
      rw [hJobs, List.getLast?_concat] at hLast
      cases hLast
      have hEnds := hCoherent.ends hJobs hEntry
        (congrArg (fun workshop => workshop.pool.jobs) hAfter)
      refine ⟨hAfter ▸ hLatest, entry.settle (entry.job.run (start.after turns).ids).1, ?_, rfl,
        nofun, fun _ => ⟨turns, hEnds, .inl ⟨rfl, ?_⟩⟩⟩
      · rw [hAfter, List.getLast?_concat]
      · rw [hAfter]
        exact hPreview hEntry
    · exact h.kept hAfter rfl (Pool.getLast?_changed hJobs hLater _)

/-- The preview is replaced when the last job is heard of and has made a delivery. -/
theorem told (h : start.Awaits turns preview job) {index : Int} {earlier : List PoolJob}
    {entry : PoolJob} {result : Except Failure Delivery}
    (hJobs : (start.after turns).pool.jobs = earlier ++ [entry])
    (hUnheard : entry.unheard = some result) (hEntry : entry.state = .done)
    (hAfter : (start.after (turns ++ [.hear index])).pool.jobs = earlier ++ [entry.hear])
    (hLatest : (start.after (turns ++ [.hear index])).session.latest =
      (start.after turns).session.latest)
    (hOutline : (start.after (turns ++ [.hear index])).session.outline =
      shownAfter (start.after turns).session.outline result) :
    start.Awaits (turns ++ [.hear index]) preview job := by
  obtain ⟨hWaited, last, hLast, hJob, -, hDone⟩ := h
  rw [hJobs, List.getLast?_concat] at hLast
  cases hLast
  refine ⟨hLatest.trans hWaited, entry.hear, ?_, hJob, fun hOpen => ?_, fun _ => ?_⟩
  · rw [hAfter, List.getLast?_concat]
  · rw [PoolJob.hear, hEntry] at hOpen
    cases hOpen
  · obtain ⟨early, hEarly, ⟨hKept, hPreview⟩ | ⟨hNone, -⟩⟩ := hDone hEntry
    · refine ⟨early, hEarly.append _, .inr ⟨rfl, ?_⟩⟩
      rw [hOutline, hPreview, Option.some.inj (hUnheard.symm.trans hKept)]
    · cases hUnheard.symm.trans hNone

theorem hear (h : start.Awaits turns preview job) (hCoherent : (start.after turns).Coherent)
    (index : Int) : start.Awaits (turns ++ [.hear index]) preview job := by
  have hAfter := after_concat start turns (.hear index)
  obtain ⟨hState, -⟩ | ⟨earlier, entry, later, hJobs, hHeard⟩ :=
    hear_cases (start.after turns) index
  · exact h.kept (hAfter.trans hState) rfl rfl
  have hSound := hCoherent.isSound hJobs
  have hEntry {result} (hUnheard : entry.unheard = some result) : entry.state = .done :=
    hSound.ended (by rw [hUnheard]; exact Option.some_ne_none _)
  obtain ⟨failure, hUnheard, hState, -⟩ | ⟨delivery, shown, hUnheard, hState, -⟩ := hHeard
  · replace hAfter := hAfter.trans hState
    by_cases hLater : later = []
    · subst hLater
      refine h.told hJobs hUnheard (hEntry hUnheard) ?_ ?_ ?_ <;> rw [hAfter]
      rfl
    · exact h.kept hAfter rfl (Pool.getLast?_changed hJobs hLater _)
  · replace hAfter := hAfter.trans hState
    have hTicket := hSound.ticket delivery hUnheard
    by_cases hLater : later = []
    · subst hLater
      have hTaken : (start.after turns).session.latest = some delivery.ticket := by
        obtain ⟨hLatest, last, hLast, hJob, -⟩ := h
        rw [hJobs, List.getLast?_concat] at hLast
        cases hLast
        rw [hLatest, hTicket, hJob]
      rw [Session.receive_of_latest hTaken] at hAfter
      refine h.told hJobs hUnheard (hEntry hUnheard) ?_ ?_ ?_ <;> rw [hAfter]
      rfl
    · exact h.kept hAfter (hCoherent.receive_earlier hJobs hLater hTicket)
        (Pool.getLast?_changed hJobs hLater _)

theorem release (h : start.Awaits turns preview job) (index : Int) :
    start.Awaits (turns ++ [.release index]) preview job := by
  have hAfter := after_concat start turns (.release index)
  obtain ⟨-, hState | ⟨earlier, entry, later, hJobs, -, hState⟩⟩ :=
    release_cases (start.after turns) index
  · exact h.kept (hAfter.trans hState) rfl rfl
  · replace hAfter := hAfter.trans hState
    by_cases hLater : later = []
    · subst hLater
      obtain ⟨hLatest, last, hLast, hJob, hPreview, hDone⟩ := h
      rw [hJobs, List.getLast?_concat] at hLast
      cases hLast
      refine ⟨hAfter ▸ hLatest, entry.release, ?_, hJob, hAfter ▸ hPreview, fun hState => ?_⟩
      · rw [hAfter, List.getLast?_concat]
      · obtain ⟨early, hEarly, hShown⟩ := hDone hState
        exact ⟨early, hEarly.append _, hAfter ▸ hShown⟩
    · exact h.kept hAfter rfl (Pool.getLast?_changed hJobs hLater _)

/-- The turns of the jobs bring a preview closer to its whole or leave it. -/
theorem turn (h : start.Awaits turns preview job) (hCoherent : (start.after turns).Coherent)
    {turn : Turn} (hDraw : turn.isDraw = false) : start.Awaits (turns ++ [turn]) preview job := by
  cases turn with
  | draw document => cases hDraw
  | start index => exact h.begin index
  | work index => exact h.work hCoherent index
  | hear index => exact h.hear hCoherent index
  | release index => exact h.release index

theorem after (h : start.Awaits turns preview job) (hCoherent : start.Coherent) {later : List Turn}
    (hDraws : ∀ turn ∈ later, turn.isDraw = false) : start.Awaits (turns ++ later) preview job := by
  induction later using List.reverseRecOn with
  | nil => rwa [List.append_nil]
  | append_singleton later turn ih =>
    rw [List.forall_mem_append, List.forall_mem_singleton] at hDraws
    rw [← List.append_assoc]
    exact (ih hDraws.1).turn (hCoherent.after _) hDraws.2

end Awaits

/-- What holds of a workshop with a pool after any turns from the start on. -/
structure WaitsSoundly (start : Workshop) (turns : List Turn) : Prop where
  /-- The pool has the jobs that were reported to be submitted, each under a ticket of its own. -/
  submitted : (start.after turns).jobs.map Job.ticket =
    (start.log turns).filterMap Event.submission?
  distinct : ((start.after turns).jobs.map Job.ticket).Nodup
  /-- The last job is never cancelled. -/
  uncancelled : ∀ last, (start.after turns).pool.jobs.getLast? = some last →
    last.state ≠ .cancelled
  /-- A delivery is handed over at most once, and only that of a job which is done. -/
  handedOnce : (start.receipts turns).Nodup
  handed : ∀ entry ∈ (start.after turns).pool.jobs,
    entry.job.ticket ∈ start.receipts turns → entry.state = .done
  /-- Somebody who listens is told of every delivery that is applied, once. -/
  updates : (start.after turns).session.updates = start.session.updates ++
    if start.session.notifies then (start.log turns).filterMap Event.update? else []
  /-- The flag of a job is set only when the job was cancelled or has come to its end and been told
  of. -/
  flagged : ∀ entry ∈ (start.after turns).pool.jobs, entry.delivered = true →
    entry.state = .cancelled ∨ entry.state = .done ∧ entry.unheard = none ∧
      ∃ early, start.Ends turns early entry.job ∧
        Tells (start.log turns) (entry.job.run (start.after early).ids).1
  /-- A wait is over at once when no job was ever submitted or the flag of the last one is set, and
  then this job is done and it has been told what its run came to. -/
  idle : (start.after turns).isIdle = true → (start.after turns).pool.jobs = [] ∨
    ∃ last, (start.after turns).pool.jobs.getLast? = some last ∧ last.delivered = true ∧
      last.state = .done ∧ last.unheard = none ∧
      ∃ early, start.Ends turns early last.job ∧
        Tells (start.log turns) (last.job.run (start.after early).ids).1
  /-- When nothing is waited for and a job was given out for the last document that was drawn, then
  what this job has delivered is shown. -/
  delivered : (start.after turns).isIdle = true → ∀ before document later preview job,
    turns = before ++ .draw document :: later → (∀ turn ∈ later, turn.isDraw = false) →
    (start.after before).session.answer document = .ok (preview, some job) →
    (start.after turns).jobs.getLast? = some job ∧
      ∃ early, start.Ends turns early job ∧ (start.after turns).session.outline =
        shownAfter preview (job.run (start.after early).ids).1
  /-- When nothing is waited for, this remains so and nothing else is shown until another document
  is drawn. -/
  kept : (start.after turns).isIdle = true → ∀ later : List Turn,
    (∀ turn ∈ later, turn.isDraw = false) →
    (start.after (turns ++ later)).session = (start.after turns).session ∧
      (start.after (turns ++ later)).isIdle = true

variable {start : Workshop}

theorem Reports.state_of_receipt {turns : List Turn} (h : start.Reports turns)
    (hCoherent : (start.after turns).Coherent) {entry : PoolJob}
    (hMem : entry ∈ (start.after turns).pool.jobs)
    (hReceipt : entry.job.ticket ∈ start.receipts turns) : entry.state = .done := by
  obtain ⟨job, hJob, hTicket⟩ := h.handed _ hReceipt
  obtain ⟨other, hOther, hDone, rfl, -⟩ := Pool.mem_outcomes_iff.mp hJob
  rw [← hCoherent.eq_of_ticket hOther hMem hTicket, hDone]

theorem Reports.told_of_heard {turns : List Turn} (h : start.Reports turns) {entry : PoolJob}
    (hMem : entry ∈ (start.after turns).pool.jobs) (hDone : entry.state = .done)
    (hUnheard : entry.unheard = none) :
    ∃ early, start.Ends turns early entry.job ∧
      Tells (start.log turns) (entry.job.run (start.after early).ids).1 := by
  have hOutcome := Pool.mem_outcomes_iff.mpr ⟨entry, hMem, hDone, rfl, hUnheard⟩
  obtain ⟨early, hEarly, hKept | ⟨-, hTells⟩⟩ := h.accounts _ _ hOutcome
  · cases hKept
  · exact ⟨early, hEarly, hTells⟩

theorem waitsSoundly_after (hPooled : start.delegation = .pooled) (hPool : start.pool = .empty)
    (hLatest : start.session.latest = none)
    (hTickets : Function.Injective start.session.tickets.nth) (turns : List Turn) :
    start.WaitsSoundly turns := by
  have hStart : start.Coherent := by
    have hJobs : start.jobs = [] := by
      rw [jobs, hPool]
      rfl
    refine ⟨hPooled, by rw [hPool]; rfl, hTickets, ?_, ?_, ?_, ?_, ?_⟩
    · rw [hJobs]
      exact List.forall_mem_nil _
    · rw [hJobs]
      exact List.nodup_nil
    · intro ticket hTicket
      cases hLatest.symm.trans hTicket
    · intro last hLast
      rw [hPool] at hLast
      cases hLast
    · rw [hPool]
      exact List.forall_mem_nil _
  have hCoherent := hStart.after turns
  have hReports := Reports.after hStart (by rw [hPool]; rfl) turns
  refine ⟨hReports.submitted.symm, hCoherent.distinct, hCoherent.uncancelled, hReports.handedOnce,
    fun entry => hReports.state_of_receipt hCoherent, hReports.updates, ?_, ?_, ?_, ?_⟩
  · intro entry hMem hDelivered
    obtain ⟨hSettled, hUnheard⟩ := (hCoherent.sound entry hMem).delivered hDelivered
    cases hState : entry.state with
    | cancelled => exact .inl rfl
    | done => exact .inr ⟨rfl, hUnheard, hReports.told_of_heard hMem hState hUnheard⟩
    | pending | running =>
      rw [hState] at hSettled
      cases hSettled
  · intro hIdle
    cases hLast : (start.after turns).pool.jobs.getLast? with
    | none => exact .inl (List.getLast?_eq_none_iff.mp hLast)
    | some last =>
      obtain ⟨hDone, hUnheard, hDelivered⟩ := hCoherent.last_of_idle hIdle hLast
      exact .inr ⟨last, rfl, hDelivered, hDone, hUnheard,
        hReports.told_of_heard (List.mem_of_getLast? hLast) hDone hUnheard⟩
  · rintro hIdle before document later preview job rfl hDraws hAnswer
    have hDrawn := Awaits.of_answer (hStart.after before) hAnswer
    have hAwaits := hDrawn.after hStart hDraws
    rw [List.append_assoc, List.singleton_append] at hAwaits
    obtain ⟨-, last, hLast, rfl, -, hDone⟩ := hAwaits
    obtain ⟨hState, hUnheard, -⟩ := hCoherent.last_of_idle hIdle hLast
    obtain ⟨early, hEarly, ⟨hKept, -⟩ | ⟨-, hShown⟩⟩ := hDone hState
    · cases hUnheard.symm.trans hKept
    · refine ⟨?_, early, hEarly, hShown⟩
      rw [jobs, List.getLast?_map, hLast]
      rfl
  · intro hIdle later hDraws
    rw [after_append]
    exact hCoherent.after_idle hIdle hDraws

def pooling : Workshop :=
  ⟨⟨1, true, .empty, none, .numbered "n", .numbered "t", true, []⟩, .pooled, [], .empty, [], none,
    .numbered "m"⟩

/-- Three documents with a job each and a small one between the last two. The second job never
starts, the first one comes to its end after the last, and between the end of the last one and its
flag the first is heard of. -/
def overlapping : List Turn :=
  [.draw (.obj [("items", .arr [.obj []])]), .start 0, .draw (.obj [("anyOf", .arr [.obj []])]),
    .draw (.obj []), .draw (.obj [("properties", .obj [("a", .obj []), ("b", .obj [])])]),
    .work 2, .release 2, .work 0, .hear 0, .hear 2, .release 2, .work 1]

theorem waitsSoundly_after_overlapping :
    pooling.WaitsSoundly overlapping ∧
      (pooling.after overlapping).pool.jobs.map PoolJob.state = [.done, .cancelled, .done] ∧
      (pooling.after overlapping).pool.jobs.map PoolJob.delivered = [false, true, true] ∧
      pooling.receipts overlapping = ["t0", "t2"] ∧
      (pooling.after overlapping).session.updates = [3] ∧
      (pooling.after (overlapping.take 10)).isIdle = false ∧
      (pooling.after overlapping).isIdle = true ∧
      (pooling.after overlapping).session.outline.entries.toList.map Entry.id =
        ["m0", "m1", "m2"] := by
  refine ⟨waitsSoundly_after rfl rfl rfl (IdSource.numbered_injective "t") overlapping, ?_, ?_, ?_,
    ?_, ?_, ?_, ?_⟩ <;> decide +kernel

end Workshop

end SchemaOutline
