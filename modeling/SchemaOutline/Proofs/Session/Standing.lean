import SchemaOutline.Proofs.Identifier
import SchemaOutline.Proofs.Session.Answer

/-!
# The latest ticket wins

Documents are drawn and deliveries come in, in any order, late, repeatedly or unasked for. What all
this comes to is kept in a ledger of its own (`Session.Standing`), which knows of the answers and of
what was delivered since but not of the state. The session always agrees with the ledger
(`keeps_run`): it shows the last answer, or a delivery that has come since under the ticket of that
same answer.
-/

set_option autoImplicit false

namespace SchemaOutline

namespace Session

inductive Call where
  | draw (document : Json)
  | receive (delivery : Delivery)

def call (session : Session) : Call → Session
  | .draw document => (session.draw document).state
  | .receive delivery => (session.receive delivery).state

def run (session : Session) : List Call → Session
  | [] => session
  | first :: rest => (session.call first).run rest

/-- What some calls come to: the outline that the last draw to succeed was answered with, the ticket
of its job if it had one, the tickets of the jobs before that, and what was delivered since. -/
structure Standing where
  shown : Outline
  ticket : Option String
  superseded : List String
  since : List Delivery

namespace Standing

def next (standing : Standing) (session : Session) : Call → Standing
  | .draw document =>
    match session.answer document with
    | .ok (outline, job?) =>
      ⟨outline, job?.map Job.ticket, standing.superseded ++ standing.ticket.toList, []⟩
    | .error _ => standing
  | .receive delivery => { standing with since := standing.since ++ [delivery] }

def answers (ticket : Option String) (delivery : Delivery) : Bool := ticket == some delivery.ticket

def outline (standing : Standing) : Outline :=
  (((standing.since.filter (answers standing.ticket)).getLast?).map Delivery.outline).getD
    standing.shown

def restrict (standing : Standing) (ticket : Option String) : Standing :=
  { standing with since := standing.since.filter (answers ticket) }

end Standing

def standingFrom (session : Session) (standing : Standing) : List Call → Standing
  | [] => standing
  | first :: rest => (session.call first).standingFrom (standing.next session first) rest

def standing (session : Session) (calls : List Call) : Standing :=
  session.standingFrom ⟨session.outline, none, [], []⟩ calls

def Call.concerns (ticket : Option String) : Call → Bool
  | .draw _ => true
  | .receive delivery => Standing.answers ticket delivery

structure Keeps (session : Session) (standing : Standing) : Prop where
  latest : session.latest = standing.ticket
  outline : session.outline = standing.outline
  unrepeated : Function.Injective session.tickets.nth
  issued : ∀ ticket, ticket ∈ standing.superseded ∨ standing.ticket = some ticket →
    ∃ i < session.tickets.taken, session.tickets.nth i = ticket
  replaced : ∀ ticket ∈ standing.superseded, standing.ticket ≠ some ticket

/-- What holds of a session after any calls from the start on. -/
structure LatestWins (start : Session) (calls : List Call) : Prop where
  /-- The last answer is shown, or what was delivered since under its ticket. -/
  shown : (start.run calls).outline = (start.standing calls).shown ∨
    ∃ delivery ∈ (start.standing calls).since,
      (start.standing calls).ticket = some delivery.ticket ∧
        (start.run calls).outline = delivery.outline
  /-- A draw succeeds exactly if it has an answer, and gives out the job of that. -/
  drawn : ∀ document, ((start.run calls).draw document).result =
    ((start.run calls).answer document).map Prod.snd
  /-- A delivery is taken exactly if it comes under the ticket of the last answer. -/
  taken : ∀ delivery, ((start.run calls).receive delivery).result =
    .ok ((start.standing calls).ticket == some delivery.ticket)
  untaken : ∀ delivery, ((start.run calls).receive delivery).result = .ok false →
    ((start.run calls).receive delivery).state = start.run calls
  superseded : ∀ ticket ∈ (start.standing calls).superseded,
    (start.standing calls).ticket ≠ some ticket
  /-- Deliveries under other tickets make no difference in the end, whenever and however often they
  come. -/
  beside : ∀ others : List Call,
    others.filter (Call.concerns (start.standing calls).ticket) =
      calls.filter (Call.concerns (start.standing calls).ticket) →
    (start.run others).outline = (start.run calls).outline ∧
      (start.run others).latest = (start.run calls).latest

variable {session other start : Session} {standing : Standing} {calls others : List Call}
  {delivery : Delivery} {ticket : Option String}

theorem Standing.outline_received (standing : Standing) (session : Session) (delivery : Delivery) :
    (standing.next session (.receive delivery)).outline =
      if standing.ticket = some delivery.ticket then delivery.outline else standing.outline := by
  simp only [next, outline, List.filter_append]
  split
  · rename_i hTicket
    simp [answers, hTicket]
  · rename_i hTicket
    simp [answers, hTicket]

theorem Keeps.receive (h : session.Keeps standing) (delivery : Delivery) :
    (session.call (.receive delivery)).Keeps (standing.next session (.receive delivery)) := by
  have hOutline := Standing.outline_received standing session delivery
  rw [← h.latest] at hOutline
  by_cases hTicket : session.latest = some delivery.ticket
  · rw [if_pos hTicket] at hOutline
    have hState : session.call (.receive delivery) =
        { session with
          outline := delivery.outline
          updates := session.updates ++
            (if session.notifies then [delivery.outline.size] else []) } := by
      simp [call, Session.receive, hTicket]
    rw [hState]
    exact ⟨h.latest, hOutline.symm, h.unrepeated, h.issued, h.replaced⟩
  · rw [if_neg hTicket] at hOutline
    have hState : session.call (.receive delivery) = session := by
      simp [call, Session.receive, hTicket]
    rw [hState]
    exact ⟨h.latest, h.outline.trans hOutline.symm, h.unrepeated, h.issued, h.replaced⟩

theorem Keeps.issued_of_mem (h : session.Keeps standing) {ticket : String}
    (hMem : ticket ∈ standing.superseded ++ standing.ticket.toList) :
    ∃ i < session.tickets.taken, session.tickets.nth i = ticket := by
  rw [List.mem_append, Option.mem_toList] at hMem
  exact h.issued ticket hMem

theorem Keeps.draw (h : session.Keeps standing) (document : Json) :
    (session.call (.draw document)).Keeps (standing.next session (.draw document)) := by
  unfold call Standing.next
  obtain ⟨failure, ids, tickets, hAnswer, -, hTickets, hState⟩ |
    ⟨outline, ids, hAnswer, -, hState⟩ |
    ⟨outline, job, ids, hAnswer, -, hTicket, hState⟩ := session.draw_cases document
  · simp only [hAnswer, hState]
    obtain rfl | rfl := hTickets
    · exact ⟨h.latest, h.outline, h.unrepeated, h.issued, h.replaced⟩
    · refine ⟨h.latest, h.outline, h.unrepeated, fun ticket hIssued => ?_, h.replaced⟩
      obtain ⟨i, hLt, hNth⟩ := h.issued ticket hIssued
      exact ⟨i, Nat.lt_succ_of_lt hLt, hNth⟩
  · simp only [hAnswer, hState]
    refine ⟨rfl, rfl, h.unrepeated, ?_, nofun⟩
    rintro ticket (hMem | hNone)
    · exact h.issued_of_mem hMem
    · cases hNone
  · simp only [hAnswer, hState]
    refine ⟨rfl, rfl, h.unrepeated, ?_, ?_⟩
    · rintro ticket (hMem | hSome)
      · obtain ⟨i, hLt, hNth⟩ := h.issued_of_mem hMem
        exact ⟨i, Nat.lt_succ_of_lt hLt, hNth⟩
      · refine ⟨session.tickets.taken, Nat.lt_succ_self _, ?_⟩
        rw [← Option.some.inj hSome, hTicket]
        rfl
    · -- The new ticket is the next of its source, and the source does not repeat.
      intro ticket hMem hSome
      obtain ⟨i, hLt, hNth⟩ := h.issued_of_mem hMem
      have hEq : session.tickets.nth i = session.tickets.nth session.tickets.taken := by
        rw [hNth, ← Option.some.inj hSome, hTicket]
        rfl
      exact absurd (h.unrepeated hEq) (Nat.ne_of_lt hLt)

theorem Keeps.call (h : session.Keeps standing) (call : Call) :
    (session.call call).Keeps (standing.next session call) := by
  cases call with
  | draw document => exact h.draw document
  | receive delivery => exact h.receive delivery

theorem Keeps.run (h : session.Keeps standing) (calls : List Call) :
    (session.run calls).Keeps (session.standingFrom standing calls) := by
  induction calls generalizing session standing with
  | nil => exact h
  | cons first rest ih => exact ih (h.call first)

theorem keeps_run (hLatest : start.latest = none) (hTickets : Function.Injective start.tickets.nth)
    (calls : List Call) : (start.run calls).Keeps (start.standing calls) := by
  refine Keeps.run ⟨hLatest, rfl, hTickets, ?_, ?_⟩ calls
  · rintro ticket (hMem | hNone)
    · cases hMem
    · cases hNone
  · intro ticket hMem
    cases hMem

theorem Standing.outline_restrict (standing : Standing) :
    (standing.restrict standing.ticket).outline = standing.outline := by
  simp [restrict, outline]

theorem bare_call (h : session.bare = other.bare) (call : Call) :
    (session.call call).bare = (other.call call).bare := by
  cases call with
  | draw document => rw [Session.call, Session.call, bare_draw, bare_draw other, h]
  | receive delivery => rw [Session.call, Session.call, bare_receive, bare_receive, h]

theorem Standing.restrict_next (h : session.bare = other.bare) (standing : Standing)
    (ticket : Option String) {call : Call} (hConcerns : call.concerns ticket = true) :
    (standing.next session call).restrict ticket = (standing.restrict ticket).next other call := by
  cases call with
  | draw document =>
    have hAnswer : session.answer document = other.answer document := by
      rw [← answer_bare, ← answer_bare other, h]
    simp only [next, hAnswer]
    cases other.answer document <;> rfl
  | receive delivery =>
    have hAnswers : answers ticket delivery = true := hConcerns
    simp [next, restrict, List.filter_append, hAnswers]

theorem Standing.restrict_next_of_not (session : Session) (standing : Standing) {call : Call}
    (hConcerns : call.concerns ticket = false) :
    (standing.next session call).restrict ticket = standing.restrict ticket := by
  cases call with
  | draw document => cases hConcerns
  | receive delivery =>
    have hAnswers : answers ticket delivery = false := hConcerns
    simp [next, restrict, List.filter_append, hAnswers]

/-- Leaving out what is delivered under other tickets leaves it out of the standing and changes
nothing else there. -/
theorem restrict_standingFrom (h : session.bare = other.bare) (standing : Standing)
    (ticket : Option String) (calls : List Call) :
    (session.standingFrom standing calls).restrict ticket =
      other.standingFrom (standing.restrict ticket) (calls.filter (Call.concerns ticket)) := by
  induction calls generalizing session other standing with
  | nil => rfl
  | cons first rest ih =>
    rw [standingFrom]
    cases hConcerns : first.concerns ticket with
    | true =>
      rw [List.filter_cons_of_pos hConcerns, standingFrom,
        ← Standing.restrict_next h standing ticket hConcerns]
      exact ih (bare_call h first) _
    | false =>
      rw [List.filter_cons_of_neg (by simp [hConcerns]),
        ← Standing.restrict_next_of_not session standing hConcerns]
      cases first with
      | draw document => cases hConcerns
      | receive delivery => exact ih ((bare_receive session delivery).trans h) _

theorem restrict_standing_eq (start : Session)
    (h : others.filter (Call.concerns ticket) = calls.filter (Call.concerns ticket)) :
    (start.standing others).restrict ticket = (start.standing calls).restrict ticket := by
  rw [standing, standing, restrict_standingFrom rfl, restrict_standingFrom rfl, h]

theorem Keeps.shown (h : session.Keeps standing) :
    session.outline = standing.shown ∨ ∃ delivery ∈ standing.since,
      standing.ticket = some delivery.ticket ∧ session.outline = delivery.outline := by
  rw [h.outline, Standing.outline]
  cases hLast : (standing.since.filter (Standing.answers standing.ticket)).getLast? with
  | none => exact .inl rfl
  | some delivery =>
    obtain ⟨hMem, hAnswers⟩ := List.mem_filter.mp (List.mem_of_getLast? hLast)
    exact .inr ⟨delivery, hMem, eq_of_beq hAnswers, rfl⟩

theorem result_receive (session : Session) (delivery : Delivery) :
    (session.receive delivery).result = .ok (session.latest == some delivery.ticket) := by
  unfold receive
  split
  · rename_i hTicket
    rw [hTicket]
  · rename_i hTicket
    rw [Bool.eq_false_iff.mpr hTicket]

theorem state_receive (h : (session.receive delivery).result = .ok false) :
    (session.receive delivery).state = session := by
  unfold receive at h ⊢
  split
  · rename_i hTicket
    rw [if_pos hTicket] at h
    cases h
  · rfl

/-- Whatever is called in whatever order, the latest ticket wins, if at the start nothing is waited
for and tickets do not repeat. -/
theorem latestWins_run (hLatest : start.latest = none)
    (hTickets : Function.Injective start.tickets.nth) (calls : List Call) :
    start.LatestWins calls := by
  have hKeeps := keeps_run hLatest hTickets calls
  refine ⟨hKeeps.shown, result_draw _, ?_, fun _ => state_receive, hKeeps.replaced, ?_⟩
  · intro delivery
    rw [result_receive, hKeeps.latest]
  · intro others hFilter
    have hOthers := keeps_run hLatest hTickets others
    have hSame := restrict_standing_eq start hFilter
    have hTicket : (start.standing others).ticket = (start.standing calls).ticket := by
      have h := congrArg Standing.ticket hSame
      exact h
    constructor
    · rw [hOthers.outline, hKeeps.outline, ← Standing.outline_restrict,
        ← (start.standing calls).outline_restrict, hTicket, hSame]
    · rw [hOthers.latest, hKeeps.latest, hTicket]

def delegating : Session := ⟨0, true, .empty, none, .numbered "n", .numbered "t", false, []⟩

/-- Two documents, the delivery for the second one, then that for the first, and then something that
nobody has asked for. -/
def overtaken : List Call :=
  [.draw (.obj [("title", .str "first")]), .draw (.obj [("title", .str "second")]),
    .receive ⟨"t1", #[⟨"m0", "", 0, none, none⟩], []⟩, .receive ⟨"t0", #[], []⟩,
    .receive ⟨"u", #[], []⟩]

theorem latestWins_run_overtaken :
    delegating.LatestWins overtaken ∧ (delegating.standing overtaken).superseded = ["t0"] ∧
      (delegating.standing overtaken).ticket = some "t1" ∧
      (delegating.run overtaken).outline.entries = #[⟨"m0", "", 0, none, none⟩] := by
  refine ⟨latestWins_run rfl (IdSource.numbered_injective "t") overtaken, ?_, ?_, ?_⟩ <;>
    decide +kernel

end Session

end SchemaOutline
