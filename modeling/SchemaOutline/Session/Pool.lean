import SchemaOutline.Session

/-!
# Pools of jobs

A pool does jobs in any order. When a job is taken on, the one taken on before it is cancelled
unless it has started. What a job comes to is kept until somebody has heard of it, and only then is
the job's flag set; a job that is cancelled has its flag set at once. Waiting is over when the flag
of the job that was taken on last is set.
-/

set_option autoImplicit false

namespace SchemaOutline

inductive JobState where
  | pending
  | running
  | done
  | cancelled
deriving Repr, DecidableEq

def JobState.name : JobState → String
  | .pending => "pending"
  | .running => "running"
  | .done => "done"
  | .cancelled => "cancelled"

def JobState.isSettled : JobState → Bool
  | .done | .cancelled => true
  | .pending | .running => false

structure PoolJob where
  job : Job
  state : JobState
  /-- What the job has come to, as long as nobody has heard of it. -/
  unheard : Option (Except Failure Delivery)
  /-- The flag that a wait for the job looks at. -/
  delivered : Bool
deriving Repr

namespace PoolJob

/-- The job as it is taken on. -/
def ofJob (job : Job) : PoolJob := ⟨job, .pending, none, false⟩

def cancel (entry : PoolJob) : PoolJob := { entry with state := .cancelled, delivered := true }

def start (entry : PoolJob) : PoolJob := { entry with state := .running }

/-- The job has come to its end. Whoever waits for it goes on waiting until the result is heard. -/
def settle (entry : PoolJob) (result : Except Failure Delivery) : PoolJob :=
  { entry with state := .done, unheard := some result }

def hear (entry : PoolJob) : PoolJob := { entry with unheard := none }

def release (entry : PoolJob) : PoolJob := { entry with delivered := true }

/-- The job is done and heard of, and only its flag is left to be set. -/
def isHeard (entry : PoolJob) : Bool :=
  entry.state == .done && entry.unheard.isNone && !entry.delivered

end PoolJob

structure Pool where
  jobs : List PoolJob
  isClosed : Bool
deriving Repr

namespace Pool

def empty : Pool := ⟨[], false⟩

/-- Cancels the last job if it has not started. -/
def cancelLast (jobs : List PoolJob) : List PoolJob × Bool :=
  match jobs.getLast? with
  | some last =>
    if last.state == .pending then (jobs.dropLast ++ [last.cancel], true) else (jobs, false)
  | none => (jobs, false)

/-- Takes on a job in place of the one before. -/
def submit (pool : Pool) (job : Job) : Except Failure (Pool × List Event) :=
  if pool.isClosed then .error .poolClosed
  else
    let (earlier, cancelled) := cancelLast pool.jobs
    let events := (if cancelled then [Event.superseded] else []) ++ [.submitted job.ticket]
    .ok ({ pool with jobs := earlier ++ [.ofJob job] }, events)

def change (pool : Pool) (position : Nat) (changed : PoolJob) : Pool :=
  { pool with jobs := pool.jobs.set position changed }

def isIdle (pool : Pool) : Bool :=
  match pool.jobs.getLast? with
  | some last => last.delivered
  | none => true

def close (pool : Pool) : Pool := { pool with isClosed := true }

end Pool

end SchemaOutline
