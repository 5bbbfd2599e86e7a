import SchemaOutline.Event
import SchemaOutline.Outline.Estimate
import SchemaOutline.Outline.Line
import SchemaOutline.Wire

/-!
# Sessions

A session shows one outline. A small document is drawn at once. A document with more entries than
the limit, and one with an `allOf` list while these are folded, is shown as a preview of at most
that many entries, and a job for the whole outline goes out under a new ticket. Only the delivery
for the latest ticket replaces the outline; drawing another document makes all earlier tickets void.
-/

set_option autoImplicit false

namespace SchemaOutline

def defaultLimit : Int := 20

structure Session where
  limit : Int
  foldsAllOf : Bool
  outline : Outline
  latest : Option String
  nodeIds : IdSource
  tickets : IdSource
  notifies : Bool
  /-- The sizes of the outlines that deliveries have put in place, as far as somebody was told. -/
  updates : List Nat

structure Reported (σ α : Type) where
  result : Except Failure α
  state : σ
  events : List Event

namespace Session

def needsJob (session : Session) (document : Json) : Except Failure (Bool × Event) := do
  let count ← Estimate.entryCount document (some session.limit)
  let mentionsAllOf ← Estimate.mentionsAllOf document
  .ok (session.limit < count || (mentionsAllOf && session.foldsAllOf),
    .estimated count session.limit mentionsAllOf)

def drawWhole (session : Session) (document : Json) : Reported Session (Option Job) :=
  match Outline.draw Gate.unlimited () session.nodeIds document with
  | (.error failure, growth) => ⟨.error failure, { session with nodeIds := growth.ids }, []⟩
  | (.ok outline, growth) =>
    ⟨.ok none, { session with nodeIds := growth.ids, outline, latest := none },
      [.drawn outline.size]⟩

/-- The job for a document. A document that nests too deeply, or is no object, makes none. -/
def jobFor (session : Session) (document : Json) : Except Failure Job :=
  if document.depth ≤ nestingLimit then
    Wire.jobFor session.tickets.peek document session.foldsAllOf
  else .error .tooDeep

/-- Shows a preview of a document and gives out the job for the whole of it. The ticket is used up
even if no job comes about. -/
def drawPreview (session : Session) (document : Json) : Reported Session (Option Job) :=
  match Outline.draw (Gate.quota session.limit) 0 session.nodeIds document with
  | (.error failure, growth) => ⟨.error failure, { session with nodeIds := growth.ids }, []⟩
  | (.ok outline, growth) =>
    let ticketed := { session with nodeIds := growth.ids, tickets := session.tickets.next }
    match session.jobFor document with
    | .error failure => ⟨.error failure, ticketed, [.drawn outline.size]⟩
    | .ok job =>
      ⟨.ok (some job), { ticketed with outline, latest := some job.ticket },
        [.drawn outline.size, .previewed outline.size job.ticket]⟩

def draw (session : Session) (document : Json) : Reported Session (Option Job) :=
  match session.needsJob document with
  | .error failure => ⟨.error failure, session, []⟩
  | .ok (needsJob, estimate) =>
    let drawn := if needsJob then session.drawPreview document else session.drawWhole document
    { drawn with events := estimate :: drawn.events }

/-- Takes a delivery. It is shown if it answers the latest ticket and left aside otherwise. -/
def receive (session : Session) (delivery : Delivery) : Reported Session Bool :=
  if session.latest == some delivery.ticket then
    let outline := delivery.outline
    ⟨.ok true,
      { session with
        outline
        updates := session.updates ++ (if session.notifies then [outline.size] else []) },
      [.applied delivery.ticket outline.size]⟩
  else ⟨.ok false, session, [.discarded delivery.ticket]⟩

def fillNames (session : Session) : Option Failure × Session :=
  let (failure, outline) := session.outline.fillNames
  (failure, { session with outline })

end Session

end SchemaOutline
