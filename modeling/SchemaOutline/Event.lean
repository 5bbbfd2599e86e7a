import SchemaOutline.Failure

/-!
# Events

What a session and its pool report while they work. Every event has a weight, a speaker and a text.
-/

set_option autoImplicit false

namespace SchemaOutline

inductive Severity where
  | debug
  | warning
deriving Repr, DecidableEq

def Severity.name : Severity → String
  | .debug => "DEBUG"
  | .warning => "WARNING"

inductive Event where
  | estimated (count : Nat) (limit : Int) (mentionsAllOf : Bool)
  | drawn (entries : Nat)
  | previewed (entries : Nat) (ticket : String)
  | discarded (ticket : String)
  | applied (ticket : String) (entries : Nat)
  | superseded
  | submitted (ticket : String)
  | jobFailed (failure : Failure)
deriving Repr, DecidableEq

namespace Event

def severity : Event → Severity
  | .jobFailed _ => .warning
  | _ => .debug

def speaker : Event → String
  | .drawn _ => "builder"
  | .superseded | .submitted _ | .jobFailed _ => "executor"
  | _ => "coordinator"

def text : Event → String
  | .estimated count limit mentionsAllOf =>
    let mentioned := if mentionsAllOf then "True" else "False"
    s!"Schema estimate: {count} nodes (max_rows={limit}), allOf present: {mentioned}"
  | .drawn entries => s!"Built schema tree with {entries} nodes"
  | .previewed entries ticket => s!"Pre-rendered {entries} rows, delegating full build {ticket}"
  | .discarded ticket => s!"Discarding stale build response {ticket}"
  | .applied ticket entries => s!"Applied full build {ticket} with {entries} rows"
  | .superseded => "Cancelled superseded build before it started"
  | .submitted ticket => s!"Submitted full build {ticket}"
  | .jobFailed failure => s!"Full schema build failed: {failure.message}"

/-- The event on one line; of a longer text only the first line is kept. -/
def line (event : Event) : String :=
  let first := String.ofList (event.text.toList.takeWhile (· != '\n'))
  event.severity.name ++ " " ++ event.speaker ++ ": " ++ first

end Event

end SchemaOutline
