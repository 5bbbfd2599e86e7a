import SchemaOutline.Session.Pool

/-!
# Workshops

A workshop is a session together with what becomes of its jobs. They are kept on a shelf until
somebody runs them, go to a pool whose jobs advance step by step, or are finished as soon as the
pool has taken them on, here or somewhere else where nobody hears what they report. Deliveries that
were run by hand are kept and may be handed over again; while such a delivery is shown, its entries
are the entries of the outline, names included.
-/

set_option autoImplicit false

namespace SchemaOutline

inductive Delegation where
  | shelved
  | pooled
  | prompt
  | remote
deriving Repr, DecidableEq

structure Workshop where
  session : Session
  delegation : Delegation
  shelf : List Job
  pool : Pool
  deliveries : List Delivery
  /-- The kept delivery whose entries are shown. -/
  shown : Option Nat
  ids : IdSource

namespace Workshop

/-- The position in a list that an index means, negative ones counting from the end. -/
def position (length : Nat) (index : Int) : Except Failure Nat :=
  let position := if index < 0 then index + length else index
  if 0 ≤ position ∧ position < length then .ok position.toNat else .error .noSuchIndex

def item {α : Type} (items : List α) (index : Int) : Except Failure (Nat × α) := do
  let position ← position items.length index
  match items[position]? with
  | some item => .ok (position, item)
  | none => .error .noSuchIndex

def refused {α : Type} (workshop : Workshop) (failure : Failure) : Reported Workshop α :=
  ⟨.error failure, workshop, []⟩

def receive (workshop : Workshop) (delivery : Delivery) (kept : Option Nat) :
    Reported Workshop Bool :=
  let received := workshop.session.receive delivery
  let shown := match received.result with
    | .ok true => kept
    | _ => workshop.shown
  ⟨received.result, { workshop with session := received.state, shown }, received.events⟩

def runJob (workshop : Workshop) (job : Job) : Reported Workshop Delivery :=
  match job.run workshop.ids with
  | (.ok delivery, ids) =>
    ⟨.ok delivery, { workshop with ids }, [.drawn delivery.entries.size]⟩
  | (.error failure, ids) => ⟨.error failure, { workshop with ids }, []⟩

/-! ### Turns of a job

A job is started, comes to its end, has its result heard and has its flag set. Each of these is a
turn of its own, so that anything may happen between two of them. A turn that is not due does
nothing.
-/

def start (workshop : Workshop) (index : Int) : Reported Workshop Bool :=
  match item workshop.pool.jobs index with
  | .error failure => workshop.refused failure
  | .ok (position, entry) =>
    if entry.state == .pending then
      ⟨.ok true, { workshop with pool := workshop.pool.change position entry.start }, []⟩
    else ⟨.ok false, workshop, []⟩

/-- Brings a job of the pool to its end, whether it had started or not. -/
def work (workshop : Workshop) (index : Int) : Reported Workshop Bool :=
  match item workshop.pool.jobs index with
  | .error failure => workshop.refused failure
  | .ok (position, entry) =>
    if entry.state.isSettled then ⟨.ok false, workshop, []⟩
    else
      let run := workshop.runJob entry.job
      let pool := workshop.pool.change position (entry.settle run.result)
      ⟨.ok true, { run.state with pool }, if workshop.delegation == .remote then [] else run.events⟩

/-- Takes the delivery of a job that has come to its end, or reports why there is none. -/
def hear (workshop : Workshop) (index : Int) : Reported Workshop Bool :=
  match item workshop.pool.jobs index with
  | .error failure => workshop.refused failure
  | .ok (position, entry) =>
    let told := { workshop with pool := workshop.pool.change position entry.hear }
    match entry.unheard with
    | none => ⟨.ok false, workshop, []⟩
    | some (.error failure) => ⟨.ok true, told, [.jobFailed failure]⟩
    | some (.ok delivery) =>
      let received := told.receive delivery none
      ⟨.ok true, received.state, received.events⟩

/-- Lets those go on who wait for a job, now that it has been heard of. -/
def release (workshop : Workshop) (index : Int) : Reported Workshop Bool :=
  match item workshop.pool.jobs index with
  | .error failure => workshop.refused failure
  | .ok (position, entry) =>
    if entry.isHeard then
      ⟨.ok true, { workshop with pool := workshop.pool.change position entry.release }, []⟩
    else ⟨.ok false, workshop, []⟩

/-- The turns that are left to a job, one right after the other. -/
def finish (workshop : Workshop) (index : Int) : Reported Workshop Bool :=
  let worked := workshop.work index
  match worked.result with
  | .ok true =>
    let heard := worked.state.hear index
    let released := heard.state.release index
    ⟨.ok true, released.state, worked.events ++ heard.events ++ released.events⟩
  | _ => worked

def delegate (workshop : Workshop) (job : Job) : Reported Workshop Unit :=
  match workshop.delegation with
  | .shelved => ⟨.ok (), { workshop with shelf := workshop.shelf ++ [job] }, []⟩
  | .pooled | .prompt | .remote =>
    match workshop.pool.submit job with
    | .error failure => workshop.refused failure
    | .ok (pool, events) =>
      let submitted := { workshop with pool }
      match workshop.delegation with
      | .prompt | .remote =>
        let finished := submitted.finish (-1)
        ⟨.ok (), finished.state, events ++ finished.events⟩
      | _ => ⟨.ok (), submitted, events⟩

/-- Shows a document, passes its job on if there is one, and says how many entries are shown at
first. -/
def draw (workshop : Workshop) (document : Json) : Reported Workshop Nat :=
  let drawn := workshop.session.draw document
  match drawn.result with
  | .error failure => ⟨.error failure, { workshop with session := drawn.state }, drawn.events⟩
  | .ok job =>
    let showing := { workshop with session := drawn.state, shown := none }
    let entries := drawn.state.outline.size
    match job with
    | none => ⟨.ok entries, showing, drawn.events⟩
    | some job =>
      let delegated := showing.delegate job
      ⟨delegated.result.map fun _ => entries, delegated.state, drawn.events ++ delegated.events⟩

def needsJob (workshop : Workshop) (document : Json) : Reported Workshop Bool :=
  match workshop.session.needsJob document with
  | .ok (needsJob, estimate) => ⟨.ok needsJob, workshop, [estimate]⟩
  | .error failure => workshop.refused failure

def shelved (workshop : Workshop) (index : Int) : Except Failure Job :=
  (item workshop.shelf index).map Prod.snd

def run (workshop : Workshop) (index : Int) : Reported Workshop Nat :=
  match workshop.shelved index with
  | .error failure => workshop.refused failure
  | .ok job =>
    let run := workshop.runJob job
    match run.result with
    | .error failure => ⟨.error failure, run.state, run.events⟩
    | .ok delivery =>
      ⟨.ok delivery.entries.size,
        { run.state with deliveries := run.state.deliveries ++ [delivery] }, run.events⟩

def respond (workshop : Workshop) (index : Int) : Reported Workshop Bool :=
  match item workshop.deliveries index with
  | .error failure => workshop.refused failure
  | .ok (position, delivery) => workshop.receive delivery (some position)

def isIdle (workshop : Workshop) : Bool :=
  match workshop.delegation with
  | .shelved => true
  | .pooled | .prompt | .remote => workshop.pool.isIdle

def close (workshop : Workshop) : Workshop := { workshop with pool := workshop.pool.close }

/-- Names the entries that are shown, in the outline and in the delivery that they come from. -/
def fillNames (workshop : Workshop) : Option Failure × Workshop :=
  let (failure, session) := workshop.session.fillNames
  let deliveries := match workshop.shown with
    | some position =>
      workshop.deliveries.modify position fun delivery =>
        { delivery with entries := session.outline.entries }
    | none => workshop.deliveries
  (failure, { workshop with session, deliveries })

end Workshop

end SchemaOutline
