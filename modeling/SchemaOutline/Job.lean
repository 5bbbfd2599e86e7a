import SchemaOutline.AllOf
import SchemaOutline.Outline.Growth

/-!
# Jobs and deliveries

A job asks for the whole outline of a document and carries all that is needed to draw it. A
delivery brings the entries and records back under the ticket of the job, so that a late one can be
told from the one that is waited for.
-/

set_option autoImplicit false

namespace SchemaOutline

structure Job where
  ticket : String
  document : Members
  foldsAllOf : Bool
deriving Repr, DecidableEq, Inhabited

structure Delivery where
  ticket : String
  entries : Array Entry
  records : Records
deriving Repr, DecidableEq, Inhabited

namespace Delivery

def ofOutline (ticket : String) (outline : Outline) : Delivery :=
  ⟨ticket, outline.entries, outline.records⟩

/-- The delivered outline. Which entries are roots is read off the entries. -/
def outline (delivery : Delivery) : Outline := Outline.ofParts delivery.entries delivery.records

end Delivery

namespace Job

/-- The document as it is drawn: with `allOf` folded, if the job asks for that. -/
def prepared (job : Job) : Except Failure Json :=
  if job.foldsAllOf then (Json.foldAllOf? (.obj job.document)).mapError Outline.drawingFailure
  else .ok (.obj job.document)

def run (job : Job) (ids : IdSource) : Except Failure Delivery × IdSource :=
  match job.prepared with
  | .error failure => (.error failure, ids)
  | .ok document =>
    let (drawn, growth) := Outline.draw Gate.unlimited () ids document
    (drawn.map (Delivery.ofOutline job.ticket), growth.ids)

end Job

end SchemaOutline
