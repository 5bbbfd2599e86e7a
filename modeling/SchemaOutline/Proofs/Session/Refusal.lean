import SchemaOutline.Proofs.Session.Waiting

/-!
# Draws that fail

A draw fails before anything is shown, or when its job is handed over. In the first case it has used
up ids for entries and perhaps a ticket, and nothing else is left of it: deliveries are taken as if
it had never been tried (`Workshop.Undisturbed`). In the second case the pool has been closed, and
the preview is shown and waited for although the job is refused (`draw_failed`).
-/

set_option autoImplicit false

namespace SchemaOutline

/-- The session with other sources of ids for entries and tickets. -/
def Session.withSources (session : Session) (nodeIds tickets : IdSource) : Session :=
  { session with nodeIds, tickets }

theorem Session.receive_withSources (session : Session) (nodeIds tickets : IdSource)
    (delivery : Delivery) :
    (session.withSources nodeIds tickets).receive delivery =
      { session.receive delivery with
        state := (session.receive delivery).state.withSources nodeIds tickets } := by
  unfold receive withSources
  split <;> rfl

namespace Workshop

variable {workshop : Workshop} {document : Json} {failure : Failure}

def withSources (workshop : Workshop) (nodeIds tickets : IdSource) : Workshop :=
  { workshop with session := workshop.session.withSources nodeIds tickets }

/-! ### Only draws look at the sources -/

section

variable (workshop) (nodeIds tickets : IdSource)

theorem receive_withSources (delivery : Delivery) (kept : Option Nat) :
    (workshop.withSources nodeIds tickets).receive delivery kept =
      { workshop.receive delivery kept with
        state := (workshop.receive delivery kept).state.withSources nodeIds tickets } := by
  simp only [receive, withSources, Session.receive_withSources]

theorem start_withSources (index : Int) :
    (workshop.withSources nodeIds tickets).start index =
      { workshop.start index with
        state := (workshop.start index).state.withSources nodeIds tickets } := by
  have hPool : (workshop.withSources nodeIds tickets).pool = workshop.pool := rfl
  unfold start
  rw [hPool]
  cases item workshop.pool.jobs index with
  | error failure => rfl
  | ok found =>
    dsimp only
    split <;> rfl

theorem work_withSources (index : Int) :
    (workshop.withSources nodeIds tickets).work index =
      { workshop.work index with
        state := (workshop.work index).state.withSources nodeIds tickets } := by
  have hPool : (workshop.withSources nodeIds tickets).pool = workshop.pool := rfl
  have hIds : (workshop.withSources nodeIds tickets).ids = workshop.ids := rfl
  unfold work
  rw [hPool]
  cases item workshop.pool.jobs index with
  | error failure => rfl
  | ok found =>
    obtain ⟨position, entry⟩ := found
    dsimp only
    split
    · rfl
    · unfold runJob
      rw [hIds]
      rcases entry.job.run workshop.ids with ⟨_ | _, _⟩ <;> rfl

theorem hear_withSources (index : Int) :
    (workshop.withSources nodeIds tickets).hear index =
      { workshop.hear index with
        state := (workshop.hear index).state.withSources nodeIds tickets } := by
  have hPool : (workshop.withSources nodeIds tickets).pool = workshop.pool := rfl
  unfold hear
  rw [hPool]
  cases item workshop.pool.jobs index with
  | error failure => rfl
  | ok found =>
    obtain ⟨position, entry⟩ := found
    dsimp only
    cases entry.unheard with
    | none => rfl
    | some result =>
      cases result with
      | error failure => rfl
      | ok delivery =>
        let told := { workshop with pool := workshop.pool.change position entry.hear }
        have hReceive := told.receive_withSources nodeIds tickets delivery none
        exact congrArg (fun received : Reported Workshop Bool =>
          (⟨.ok true, received.state, received.events⟩ : Reported Workshop Bool)) hReceive

theorem release_withSources (index : Int) :
    (workshop.withSources nodeIds tickets).release index =
      { workshop.release index with
        state := (workshop.release index).state.withSources nodeIds tickets } := by
  have hPool : (workshop.withSources nodeIds tickets).pool = workshop.pool := rfl
  unfold release
  rw [hPool]
  cases item workshop.pool.jobs index with
  | error failure => rfl
  | ok found =>
    dsimp only
    split <;> rfl

theorem turn_withSources {turn : Turn} (h : turn.isDraw = false) :
    (workshop.withSources nodeIds tickets).turn turn =
      ((workshop.turn turn).1.withSources nodeIds tickets, (workshop.turn turn).2) := by
  cases turn with
  | draw document => cases h
  | start index => simp only [Workshop.turn, start_withSources]
  | work index => simp only [Workshop.turn, work_withSources]
  | hear index => simp only [Workshop.turn, hear_withSources]
  | release index => simp only [Workshop.turn, release_withSources]

end

theorem after_withSources (nodeIds tickets : IdSource) {turns : List Turn}
    (h : ∀ turn ∈ turns, turn.isDraw = false) :
    (workshop.withSources nodeIds tickets).after turns =
        (workshop.after turns).withSources nodeIds tickets ∧
      (workshop.withSources nodeIds tickets).log turns = workshop.log turns := by
  induction turns generalizing workshop with
  | nil => exact ⟨rfl, rfl⟩
  | cons first rest ih =>
    obtain ⟨hFirst, hRest⟩ := List.forall_mem_cons.mp h
    rw [after, after, log, log, turn_withSources workshop nodeIds tickets hFirst]
    exact ⟨(ih hRest).1, congrArg _ (ih hRest).2⟩

/-! ### What a failed draw leaves -/

/-- What the other workshop shows and waits for is the same, and so is what becomes of it as long as
nothing is drawn. -/
structure Undisturbed (workshop other : Workshop) : Prop where
  outline : other.session.outline = workshop.session.outline
  latest : other.session.latest = workshop.session.latest
  applied : ∀ delivery kept, workshop.session.latest = some delivery.ticket →
    (other.receive delivery kept).result = .ok true ∧
      (other.receive delivery kept).state.session.outline = delivery.outline
  later : ∀ turns : List Turn, (∀ turn ∈ turns, turn.isDraw = false) →
    (∃ nodeIds tickets,
      other.after turns = (workshop.after turns).withSources nodeIds tickets) ∧
    other.log turns = workshop.log turns

theorem undisturbed_withSources (workshop : Workshop) (nodeIds tickets : IdSource) :
    workshop.Undisturbed (workshop.withSources nodeIds tickets) := by
  refine ⟨rfl, rfl, fun delivery kept hLatest => ?_, fun turns hTurns => ?_⟩
  · rw [receive_withSources]
    simp only [receive, Session.receive_of_latest hLatest]
    exact ⟨trivial, rfl⟩
  · obtain ⟨hAfter, hLog⟩ := after_withSources nodeIds tickets hTurns
    exact ⟨⟨nodeIds, tickets, hAfter⟩, hLog⟩

theorem isClosed_of_submit {pool : Pool} {job : Job} (h : pool.submit job = .error failure) :
    failure = .poolClosed ∧ pool.isClosed = true := by
  unfold Pool.submit at h
  split at h
  · rename_i hClosed
    cases h
    exact ⟨rfl, hClosed⟩
  · cases h

/-- Only a pool that has been closed does not take a job. -/
theorem delegate_of_error {job : Job} (h : (workshop.delegate job).result = .error failure) :
    failure = .poolClosed ∧ workshop.pool.isClosed = true ∧ workshop.delegation ≠ .shelved ∧
      (workshop.delegate job).state = workshop := by
  unfold delegate at h ⊢
  cases hDelegation : workshop.delegation with
  | shelved =>
    rw [hDelegation] at h
    cases h
  | _ =>
    simp only [hDelegation] at h ⊢
    cases hSubmit : workshop.pool.submit job with
    | error other =>
      rw [hSubmit] at h
      cases h
      obtain ⟨hFailure, hClosed⟩ := isClosed_of_submit hSubmit
      exact ⟨hFailure, hClosed, nofun, rfl⟩
    | ok submitted =>
      rw [hSubmit] at h
      cases h

/-- A draw that fails disturbs nothing, unless all has gone well and only the pool does not take the
job any more. Then the preview is shown and the refused job is waited for. -/
theorem draw_failed (h : (workshop.draw document).result = .error failure) :
    (workshop.session.answer document = .error failure ∧
      workshop.Undisturbed (workshop.draw document).state) ∨
    (failure = .poolClosed ∧ workshop.pool.isClosed = true ∧ workshop.delegation ≠ .shelved ∧
      ∃ preview job, workshop.session.answer document = .ok (preview, some job) ∧
        (workshop.draw document).state.session.outline = preview ∧
        (workshop.draw document).state.session.latest = some job.ticket ∧
        (workshop.draw document).state.pool = workshop.pool) := by
  obtain ⟨failed, nodeIds, tickets, hAnswer, hResult, -, hState⟩ |
    ⟨outline, nodeIds, -, hResult, -⟩ |
    ⟨outline, job, nodeIds, hAnswer, hResult, -, hState⟩ := workshop.session.draw_cases document
  · have hSame : (workshop.draw document).state = workshop.withSources nodeIds tickets := by
      simp only [draw, hResult, hState]
      rfl
    have hFailed : failed = failure := by
      simpa [draw, hResult] using h
    rw [hSame, ← hFailed]
    exact .inl ⟨hAnswer, undisturbed_withSources workshop nodeIds tickets⟩
  · simp [draw, hResult] at h
  · let showing :=
      { workshop with session := (workshop.session.draw document).state, shown := none }
    have hDrawn : (workshop.draw document).state = (showing.delegate job).state := by
      simp only [draw, hResult, showing]
    have hRefused : (showing.delegate job).result = .error failure := by
      simp only [draw, hResult] at h
      cases hDelegated : (showing.delegate job).result with
      | error other =>
        rw [hDelegated] at h
        cases h
        rfl
      | ok done =>
        rw [hDelegated] at h
        cases h
    obtain ⟨hClosed, hPool, hDelegation, hSame⟩ := delegate_of_error hRefused
    refine .inr ⟨hClosed, hPool, hDelegation, outline, job, hAnswer, ?_⟩
    rw [hDrawn, hSame]
    simp only [showing, hState]
    exact ⟨trivial, trivial, trivial⟩

/-- A workshop that waits for a first job. -/
def waiting : Workshop := pooling.after [.draw (.obj [("items", .arr [.obj []])])]

/-- An object that requires a number instead of a name. -/
def requiringNumber : Json := .obj [("properties", .obj []), ("required", .arr [.int 5])]

theorem draw_failed_requiringNumber :
    (waiting.draw requiringNumber).result =
        .error (.refused .objectSummary [⟨[.key "required", .index 0], .notText⟩]) ∧
      waiting.Undisturbed (waiting.draw requiringNumber).state ∧
      waiting.session.latest = some "t0" ∧
      ((waiting.draw requiringNumber).state.after
        [.work 0, .hear 0, .release 0]).session.outline.entries.toList.map Entry.id =
          ["m0", "m1"] := by
  have hResult : (waiting.draw requiringNumber).result =
      .error (.refused .objectSummary [⟨[.key "required", .index 0], .notText⟩]) := by
    decide +kernel
  refine ⟨hResult, ?_, by decide +kernel, by decide +kernel⟩
  obtain ⟨-, hUndisturbed⟩ | ⟨hClosed, -⟩ := draw_failed hResult
  · exact hUndisturbed
  · cases hClosed

def branching : Json := .obj [("anyOf", .arr [.obj []])]

/-- The pool is closed before a document is drawn that needs a job. The draw fails, and yet its
preview is shown and its ticket is waited for: the first delivery, which would have been taken, is
left aside. -/
theorem draw_failed_of_closed :
    (waiting.close.draw branching).result = .error .poolClosed ∧
      waiting.close.session.latest = some "t0" ∧
      (waiting.close.draw branching).state.session.latest = some "t1" ∧
      (waiting.close.draw branching).state.session.outline ≠ waiting.close.session.outline ∧
      waiting.close.log [.work 0, .hear 0] = [.drawn 2, .applied "t0" 2] ∧
      (waiting.close.draw branching).state.log [.work 0, .hear 0] =
        [.drawn 2, .discarded "t0"] := by
  have hIds : (waiting.close.draw branching).state.session.outline.entries.toList.map Entry.id ≠
      waiting.close.session.outline.entries.toList.map Entry.id := by
    decide +kernel
  refine ⟨by decide +kernel, by decide +kernel, by decide +kernel, ?_, by decide +kernel,
    by decide +kernel⟩
  exact fun hSame => hIds (congrArg (fun outline => outline.entries.toList.map Entry.id) hSame)

end Workshop

end SchemaOutline
