import Mathlib.Data.List.Nodup
import SchemaOutline.Proofs.Session.Turn

/-!
# A session and its pool

A session waits for the last job of its pool or for none, because both follow the same draws, and
the flag of a job is set after everything else (`Coherent`). So the deliveries of all other jobs are
left aside, and when the flag of the last job is set then nothing changes until another document is
drawn (`Coherent.after_idle`).
-/

set_option autoImplicit false

namespace SchemaOutline

namespace Workshop

variable {workshop : Workshop}

/-- The session and the pool of a workshop know of the same jobs. -/
structure Coherent (workshop : Workshop) : Prop where
  pooled : workshop.delegation = .pooled
  isOpen : workshop.pool.isClosed = false
  unrepeated : Function.Injective workshop.session.tickets.nth
  issued : ∀ job ∈ workshop.jobs, ∃ i < workshop.session.tickets.taken,
    workshop.session.tickets.nth i = job.ticket
  distinct : (workshop.jobs.map Job.ticket).Nodup
  latest : ∀ ticket, workshop.session.latest = some ticket →
    (workshop.jobs.map Job.ticket).getLast? = some ticket
  uncancelled : ∀ last, workshop.pool.jobs.getLast? = some last → last.state ≠ .cancelled
  sound : ∀ entry ∈ workshop.pool.jobs, entry.IsSound

namespace Coherent

variable {other : Workshop} {earlier later : List PoolJob} {entry changed : PoolJob}

theorem isSound (h : workshop.Coherent) (hJobs : workshop.pool.jobs = earlier ++ entry :: later) :
    entry.IsSound :=
  h.sound entry (hJobs ▸ List.mem_append_right _ List.mem_cons_self)

/-- One job has come further, and it is not cancelled. -/
theorem advanced (h : workshop.Coherent)
    (hJobs : workshop.pool.jobs = earlier ++ entry :: later)
    (hOther : other.pool = { workshop.pool with jobs := earlier ++ changed :: later })
    (hDelegation : other.delegation = workshop.delegation)
    (hTickets : other.session.tickets = workshop.session.tickets)
    (hLatest : other.session.latest = workshop.session.latest) (hJob : changed.job = entry.job)
    (hState : entry.state ≠ .cancelled → changed.state ≠ .cancelled) (hSound : changed.IsSound) :
    other.Coherent := by
  have hSame : other.jobs = workshop.jobs := by
    rw [jobs, jobs, hOther, hJobs]
    simp [hJob]
  refine ⟨hDelegation.trans h.pooled, ?_, ?_, ?_, ?_, ?_, ?_, ?_⟩
  · rw [hOther]
    exact h.isOpen
  · rw [hTickets]
    exact h.unrepeated
  · rw [hTickets, hSame]
    exact h.issued
  · rw [hSame]
    exact h.distinct
  · rw [hLatest, hSame]
    exact h.latest
  · intro last hLast
    rw [hOther] at hLast
    have hUncancelled := h.uncancelled
    rw [hJobs] at hUncancelled
    cases later with
    | nil =>
      rw [List.getLast?_concat] at hLast hUncancelled
      cases hLast
      exact hState (hUncancelled entry rfl)
    | cons next rest =>
      rw [List.getLast?_append_cons, List.getLast?_cons_cons] at hLast hUncancelled
      exact hUncancelled last hLast
  · have hAll := h.sound
    rw [hJobs, List.forall_mem_append, List.forall_mem_cons] at hAll
    rw [hOther, List.forall_mem_append, List.forall_mem_cons]
    exact ⟨hAll.1, hSound, hAll.2.2⟩

theorem start (h : workshop.Coherent) (index : Int) : (workshop.start index).state.Coherent := by
  obtain ⟨-, hState | ⟨earlier, entry, later, hJobs, hPending, hState⟩⟩ :=
    start_cases workshop index
  · rwa [hState]
  · have hRunning : JobState.running ≠ .cancelled := by decide
    rw [hState]
    exact h.advanced hJobs rfl rfl rfl rfl rfl (fun _ => hRunning)
      ((h.isSound hJobs).start hPending)

theorem work (h : workshop.Coherent) (index : Int) : (workshop.work index).state.Coherent := by
  obtain ⟨-, hState | ⟨earlier, entry, later, hJobs, hEntry, hState⟩⟩ := work_cases workshop index
  · rwa [hState]
  · have hDone : JobState.done ≠ .cancelled := by decide
    rw [hState]
    exact h.advanced hJobs rfl rfl rfl rfl rfl (fun _ => hDone)
      ((h.isSound hJobs).settle hEntry workshop.ids)

theorem hear (h : workshop.Coherent) (index : Int) : (workshop.hear index).state.Coherent := by
  obtain ⟨hState, -⟩ | ⟨earlier, entry, later, hJobs,
    ⟨failure, -, hState, -⟩ | ⟨delivery, shown, -, hState, -⟩⟩ := hear_cases workshop index
  · rwa [hState]
  · rw [hState]
    exact h.advanced hJobs rfl rfl rfl rfl rfl id (h.isSound hJobs).hear
  · rw [hState]
    obtain ⟨-, -, outline, hReceive⟩ := workshop.session.receive_reports delivery
    rw [hReceive]
    exact h.advanced hJobs rfl rfl rfl rfl rfl id (h.isSound hJobs).hear

theorem release (h : workshop.Coherent) (index : Int) :
    (workshop.release index).state.Coherent := by
  obtain ⟨-, hState | ⟨earlier, entry, later, hJobs, ⟨hDone, hUnheard, -⟩, hState⟩⟩ :=
    release_cases workshop index
  · rwa [hState]
  · rw [hState]
    exact h.advanced hJobs rfl rfl rfl rfl rfl id ((h.isSound hJobs).release hDone hUnheard)

theorem draw (h : workshop.Coherent) (document : Json) :
    (workshop.draw document).state.Coherent := by
  obtain ⟨session, shown, hState, hLatest, hNth, hTaken, -⟩ |
    ⟨preview, job, ids, -, hTicket, hState, -⟩ := draw_cases h.pooled h.isOpen document
  · rw [hState]
    refine ⟨h.pooled, h.isOpen, hNth ▸ h.unrepeated, ?_, h.distinct, ?_, h.uncancelled, h.sound⟩
    · intro job hJob
      obtain ⟨i, hLt, hIssued⟩ := h.issued job hJob
      exact ⟨i, Nat.lt_of_lt_of_le hLt hTaken, hNth ▸ hIssued⟩
    · intro ticket hTicket
      obtain hNone | hSame := hLatest
      · cases hNone.symm.trans hTicket
      · exact h.latest ticket (hSame.symm.trans hTicket)
  · have hJobs : (workshop.draw document).state.jobs = workshop.jobs ++ [job] := by
      rw [jobs, jobs, hState, List.map_append, Pool.map_job_cancelLast]
      rfl
    refine ⟨?_, ?_, ?_, ?_, ?_, ?_, ?_, ?_⟩
    · rw [hState]
      exact h.pooled
    · rw [hState]
    · rw [hState]
      exact h.unrepeated
    · rw [hJobs, hState, List.forall_mem_append]
      refine ⟨fun job hJob => ?_, ?_⟩
      · obtain ⟨i, hLt, hIssued⟩ := h.issued job hJob
        exact ⟨i, Nat.lt_succ_of_lt hLt, hIssued⟩
      · exact List.forall_mem_singleton.mpr
          ⟨workshop.session.tickets.taken, Nat.lt_succ_self _, hTicket.symm⟩
    · -- The new ticket is the next of its source, and the source does not repeat.
      rw [hJobs, List.map_append, List.map_singleton, ← List.concat_eq_append]
      refine List.Nodup.concat ?_ h.distinct
      intro hMem
      obtain ⟨old, hOld, hSame⟩ := List.mem_map.mp hMem
      obtain ⟨i, hLt, hIssued⟩ := h.issued old hOld
      have hEq : workshop.session.tickets.nth i =
          workshop.session.tickets.nth workshop.session.tickets.taken :=
        hIssued.trans (hSame.trans hTicket)
      exact absurd (h.unrepeated hEq) (Nat.ne_of_lt hLt)
    · intro ticket hLatest
      rw [hState] at hLatest
      rw [hJobs, List.map_append, List.map_singleton, List.getLast?_concat]
      exact hLatest
    · intro last hLast
      rw [hState, List.getLast?_concat] at hLast
      cases hLast
      nofun
    · rw [hState, List.forall_mem_append, List.forall_mem_singleton]
      exact ⟨Pool.isSound_of_mem_cancelLast h.sound, PoolJob.isSound_ofJob job⟩

theorem turn (h : workshop.Coherent) (turn : Turn) : (workshop.turn turn).1.Coherent := by
  cases turn with
  | draw document => exact h.draw document
  | start index => exact h.start index
  | work index => exact h.work index
  | hear index => exact h.hear index
  | release index => exact h.release index

theorem after (h : workshop.Coherent) (turns : List Turn) : (workshop.after turns).Coherent := by
  induction turns generalizing workshop with
  | nil => exact h
  | cons first rest ih => exact ih (h.turn first)

theorem eq_of_ticket (h : workshop.Coherent) {entry other : PoolJob}
    (hEntry : entry ∈ workshop.pool.jobs) (hOther : other ∈ workshop.pool.jobs)
    (hTicket : entry.job.ticket = other.job.ticket) : entry = other := by
  have hDistinct := h.distinct
  rw [jobs, List.map_map] at hDistinct
  exact List.inj_on_of_nodup_map hDistinct hEntry hOther hTicket

/-- What is known of the outcome of a job depends on its ticket alone. -/
theorem outcome?_of_ticket (h : workshop.Coherent)
    (hJobs : workshop.pool.jobs = earlier ++ entry :: later) {job : Job}
    {unheard : Option (Except Failure Delivery)}
    (hMem : (job, unheard) ∈ Pool.outcomes workshop.pool.jobs)
    (hTicket : job.ticket = entry.job.ticket) : entry.outcome? = some (job, unheard) := by
  obtain ⟨other, hOther, hDone, rfl, rfl⟩ := Pool.mem_outcomes_iff.mp hMem
  have hEntry : entry ∈ workshop.pool.jobs :=
    hJobs ▸ List.mem_append_right _ List.mem_cons_self
  rw [← h.eq_of_ticket hOther hEntry hTicket, PoolJob.outcome?_of_done hDone]

end Coherent

/-- A job comes to its end right after the earlier ones of some turns. -/
def Ends (start : Workshop) (turns early : List Turn) (job : Job) : Prop :=
  ∃ index, early ++ [.work index] <+: turns ∧
    job ∉ Pool.doneJobs (start.after early).pool.jobs ∧
    job ∈ Pool.doneJobs (start.after (early ++ [.work index])).pool.jobs

theorem Ends.append {start : Workshop} {turns early : List Turn} {job : Job}
    (h : start.Ends turns early job) (others : List Turn) :
    start.Ends (turns ++ others) early job := by
  obtain ⟨index, hPrefix, hBefore, hAfter⟩ := h
  exact ⟨index, hPrefix.trans (List.prefix_append _ _), hBefore, hAfter⟩

theorem Coherent.ends {start : Workshop} {turns : List Turn}
    (h : (start.after turns).Coherent) {index : Int} {earlier later : List PoolJob}
    {entry : PoolJob} {result : Except Failure Delivery}
    (hJobs : (start.after turns).pool.jobs = earlier ++ entry :: later)
    (hEntry : entry.state.isSettled = false)
    (hAfter : (start.after (turns ++ [.work index])).pool.jobs =
      earlier ++ entry.settle result :: later) :
    start.Ends (turns ++ [.work index]) turns entry.job := by
  refine ⟨index, List.prefix_refl _, fun hMem => ?_, ?_⟩
  · obtain ⟨unheard, hMem⟩ := Pool.mem_doneJobs_iff.mp hMem
    have hOutcome := h.outcome?_of_ticket hJobs hMem rfl
    rw [PoolJob.outcome?_of_unsettled hEntry] at hOutcome
    cases hOutcome
  · rw [Pool.mem_doneJobs_iff, hAfter]
    refine ⟨some result, Pool.mem_outcomes_iff.mpr ⟨entry.settle result, ?_, rfl, rfl, rfl⟩⟩
    exact List.mem_append_right _ List.mem_cons_self

theorem isIdle_iff (hPooled : workshop.delegation = .pooled) :
    workshop.isIdle = true ↔
      ∀ last, workshop.pool.jobs.getLast? = some last → last.delivered = true := by
  rw [isIdle, hPooled]
  simp only [Pool.isIdle]
  cases workshop.pool.jobs.getLast? <;> simp

theorem isIdle_of_last {other : Workshop} (hIdle : workshop.isIdle = true)
    (hDelegation : other.delegation = workshop.delegation)
    (hLast : other.pool.jobs.getLast? = workshop.pool.jobs.getLast?) : other.isIdle = true := by
  rw [← hIdle]
  simp only [isIdle, hDelegation, Pool.isIdle, hLast]

namespace Coherent

variable {earlier later : List PoolJob} {entry : PoolJob} {delivery : Delivery}

/-- Only the delivery of the last job is taken. -/
theorem receive_earlier (h : workshop.Coherent)
    (hJobs : workshop.pool.jobs = earlier ++ entry :: later) (hLater : later ≠ [])
    (hTicket : delivery.ticket = entry.job.ticket) :
    (workshop.session.receive delivery).state = workshop.session := by
  have hStale : workshop.session.latest ≠ some delivery.ticket := by
    intro hLatest
    have hLast := h.latest _ hLatest
    have hDistinct := h.distinct
    rw [jobs, hJobs, List.map_append, List.map_append, List.map_cons, List.map_cons]
      at hLast hDistinct
    rw [List.nodup_middle, List.nodup_cons, ← hTicket] at hDistinct
    refine hDistinct.1 (List.mem_append_right _ ?_)
    cases later with
    | nil => exact absurd rfl hLater
    | cons next rest =>
      rw [List.map_cons, List.map_cons, List.getLast?_append_cons, List.getLast?_cons_cons] at hLast
      exact List.mem_of_getLast? hLast
  rw [Session.receive_of_latest_ne hStale]

/-- The flag of the last job is set when nothing is left to happen to it. -/
theorem last_of_idle (h : workshop.Coherent) (hIdle : workshop.isIdle = true) {last : PoolJob}
    (hLast : workshop.pool.jobs.getLast? = some last) :
    last.state = .done ∧ last.unheard = none ∧ last.delivered = true := by
  have hDelivered := (isIdle_iff h.pooled).mp hIdle last hLast
  obtain ⟨hSettled, hUnheard⟩ := (h.sound last (List.mem_of_getLast? hLast)).delivered hDelivered
  have hUncancelled := h.uncancelled last hLast
  refine ⟨?_, hUnheard, hDelivered⟩
  cases hState : last.state with
  | done => rfl
  | cancelled => exact absurd hState hUncancelled
  | pending | running =>
    rw [hState] at hSettled
    cases hSettled

theorem turn_idle (h : workshop.Coherent) (hIdle : workshop.isIdle = true) {turn : Turn}
    (hDraw : turn.isDraw = false) :
    (workshop.turn turn).1.session = workshop.session ∧
      (workshop.turn turn).1.isIdle = true := by
  -- No turn is due of the last job, so whatever advances is another one.
  have hBehind {earlier later : List PoolJob} {entry : PoolJob}
      (hJobs : workshop.pool.jobs = earlier ++ entry :: later)
      (hEntry : ¬(entry.state = .done ∧ entry.unheard = none ∧ entry.delivered = true)) :
      later ≠ [] := by
    rintro rfl
    exact hEntry (h.last_of_idle hIdle (by rw [hJobs, List.getLast?_concat]))
  cases turn with
  | draw document => cases hDraw
  | start index =>
    obtain ⟨-, hState | ⟨earlier, entry, later, hJobs, hPending, hState⟩⟩ :=
      start_cases workshop index
    · rw [Workshop.turn, hState]
      exact ⟨rfl, hIdle⟩
    · have hLater := hBehind hJobs (by simp [hPending])
      rw [Workshop.turn, hState]
      exact ⟨rfl, isIdle_of_last hIdle rfl (Pool.getLast?_changed hJobs hLater _)⟩
  | work index =>
    obtain ⟨-, hState | ⟨earlier, entry, later, hJobs, hEntry, hState⟩⟩ :=
      work_cases workshop index
    · rw [Workshop.turn, hState]
      exact ⟨rfl, hIdle⟩
    · have hLater := hBehind hJobs fun hLast => by
        rw [hLast.1] at hEntry
        cases hEntry
      rw [Workshop.turn, hState]
      exact ⟨rfl, isIdle_of_last hIdle rfl (Pool.getLast?_changed hJobs hLater _)⟩
  | hear index =>
    obtain ⟨hState, -⟩ | ⟨earlier, entry, later, hJobs,
      ⟨failure, hUnheard, hState, -⟩ | ⟨delivery, shown, hUnheard, hState, -⟩⟩ :=
      hear_cases workshop index
    · rw [Workshop.turn, hState]
      exact ⟨rfl, hIdle⟩
    all_goals
      have hLater := hBehind hJobs (by simp [hUnheard])
      rw [Workshop.turn, hState]
      refine ⟨?_, isIdle_of_last hIdle rfl (Pool.getLast?_changed hJobs hLater _)⟩
    · rfl
    · exact h.receive_earlier hJobs hLater ((h.isSound hJobs).ticket delivery hUnheard)
  | release index =>
    obtain ⟨-, hState | ⟨earlier, entry, later, hJobs, ⟨-, -, hDelivered⟩, hState⟩⟩ :=
      release_cases workshop index
    · rw [Workshop.turn, hState]
      exact ⟨rfl, hIdle⟩
    · have hLater := hBehind hJobs (by simp [hDelivered])
      rw [Workshop.turn, hState]
      exact ⟨rfl, isIdle_of_last hIdle rfl (Pool.getLast?_changed hJobs hLater _)⟩

/-- While nothing is waited for, the jobs of the pool change nothing. -/
theorem after_idle (h : workshop.Coherent) (hIdle : workshop.isIdle = true) {later : List Turn}
    (hDraws : ∀ turn ∈ later, turn.isDraw = false) :
    (workshop.after later).session = workshop.session ∧
      (workshop.after later).isIdle = true := by
  induction later generalizing workshop with
  | nil => exact ⟨rfl, hIdle⟩
  | cons first rest ih =>
    rw [List.forall_mem_cons] at hDraws
    obtain ⟨hSession, hStillIdle⟩ := h.turn_idle hIdle hDraws.1
    obtain ⟨hRest, hRestIdle⟩ := ih (h.turn first) hStillIdle hDraws.2
    exact ⟨hRest.trans hSession, hRestIdle⟩

end Coherent

end Workshop

end SchemaOutline
