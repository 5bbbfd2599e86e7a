import SchemaOutline.Location
import SchemaOutline.Path
import SchemaOutline.Json.Literal
import SchemaOutline.Json.Reader
import SchemaOutline.Text.Utf8

/-!
# What can go wrong

Every way in which the library refuses a request, as a cause. Texts belong to causes and are all
given here (`Failure.message`).
-/

set_option autoImplicit false

namespace SchemaOutline

/-- The number of fragments, lists or containers that a traversal goes into each other. -/
def nestingLimit : Nat := 1000

/-! ### Calls

While entries are drawn or counted, room is taken up by the calls that stand open when the next
fragment below is looked at. Calls that have returned by then are left out.
-/

/-- The calls between an entry that is drawn and the entries directly below it. -/
def callsPerEntry : Nat := 3

/-- The calls between an entry that is counted and those directly below it. -/
def callsPerCount : Nat := 2

/-- The calls more for every array that is looked through in between. -/
def callsInPlace : Nat := 2

theorem sub_callsInPlace_lt {room : Nat} (h : ¬ room < callsInPlace) :
    room - callsInPlace < room :=
  Nat.sub_lt_of_pos_le (by decide) (Nat.le_of_not_lt h)

/-- The calls that may stand open: enough to draw as many entries below each other as a traversal
goes into. -/
def callLimit : Nat := callsPerEntry * nestingLimit

inductive Mismatch where
  | missing
  | notText
  | notInteger
  | unreadableInteger
  | integerTooLong
  | fractional
  | notFinite
  | belowMinimum
  | notTruthValue
  | unreadableTruthValue
  | notObject
  | notList
  | notSequence
  | notRecord
  | notTaggedRecord
  | tagMissing
  | tagUnknown
  | notOffered
deriving Repr, DecidableEq

structure Fault where
  place : List Step
  mismatch : Mismatch
deriving Repr, DecidableEq

inductive Form where
  | objectSummary
  | record
  | job
  | delivery
  | settings
deriving Repr, DecidableEq

def Form.title : Form → String
  | .objectSummary => "ObjectSchemaNode"
  | .record => "MetadataRecord"
  | .job => "BuildRequest"
  | .delivery => "BuildResponse"
  | .settings => "Config"

inductive DocumentFault where
  | unreadable (path : Path) (cause : PathCause)
  | notJson (path : Path) (text : String) (fault : Json.SyntaxFault)
  | notObject (path : Path) (found : Json)
deriving Repr, DecidableEq

def DocumentFault.message : DocumentFault → String
  | .unreadable path cause =>
    "Cannot read schema file " ++ path.text ++ ": " ++ cause.text ++ ": " ++ Text.quoted path.text
  | .notJson path text fault => "Invalid JSON in " ++ path.text ++ ": " ++ fault.describe text
  | .notObject path found =>
    s!"Schema document in {path.text} must be a JSON object, got {found.typeName}"

inductive Failure where
  | tooDeepToDraw
  | tooDeep
  | recordTaken (id : String)
  | noRecord (id : String)
  | noSuchIndex
  | refused (form : Form) (faults : List Fault)
  | labelNotText (position : Nat) (found : Json)
  | poolClosed
  | hugeInteger (digits : Nat)
  | notText (fault : Text.ByteFault)
  | noDocument (fault : DocumentFault)
  | exportTooDeep
  | straySlashTag
  | unreadableParameters
  | unreadableNumber (text : String)
  | unwritable (cause : PathCause)
  | zeroInPath
  | endlessWait
deriving Repr, DecidableEq

/-- The first line of the text of a failure. -/
def Failure.message : Failure → String
  | .tooDeepToDraw =>
    s!"Schema is nested too deeply to build (recursion limit {nestingLimit})"
  | .tooDeep => ""
  | .recordTaken id => "Metadata for node " ++ Text.quoted id ++ " is already set"
  | .noRecord id => Text.quoted id
  | .noSuchIndex => "list index out of range"
  | .refused form faults =>
    let errors := if faults.length == 1 then "error" else "errors"
    s!"{faults.length} validation {errors} for {form.title}"
  | .labelNotText position found =>
    s!"sequence item {position}: expected str instance, {found.typeName} found"
  | .poolClosed => "cannot schedule new futures after shutdown"
  | .hugeInteger digits =>
    s!"Exceeds the limit ({Text.digitLimit} digits) for integer string conversion: value has " ++
      s!"{digits} digits; use sys.set_int_max_str_digits() to increase the limit"
  | .notText fault => fault.describe
  | .noDocument fault => fault.message
  | .exportTooDeep => "Maximum serialization depth exceeded"
  | .straySlashTag => "closing tag has nothing to close"
  | .unreadableParameters => "parameters are not a literal"
  | .unreadableNumber text => "invalid literal for int() with base 10: " ++ Text.quoted text
  | .unwritable cause => cause.text
  | .zeroInPath => "embedded null byte"
  | .endlessWait => "timeout value is too large"

/-- Too deep a document is refused in words of its own when it is drawn or its entries are
counted. -/
def Outline.drawingFailure : Failure → Failure
  | .tooDeep => .tooDeepToDraw
  | failure => failure

end SchemaOutline
