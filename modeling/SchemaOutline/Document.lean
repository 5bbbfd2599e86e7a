import SchemaOutline.Failure

/-!
# Schema documents

A schema document is a JSON object in a file. Reading one goes from bytes over text to JSON, and
each stage has faults of its own.
-/

set_option autoImplicit false

namespace SchemaOutline.Document

/-- The text of bytes, with line feeds as the only line ends. -/
def textOf (bytes : List UInt8) : Except Failure String :=
  match Text.Utf8.decode bytes with
  | .ok cs => .ok (String.ofList (Text.withLineFeeds cs))
  | .error fault => .error (.notText fault)

def ofText (path : Path) (text : String) : Except Failure Members :=
  match Json.read nestingLimit text with
  | .ok (.obj members) => .ok members
  | .ok found => .error (.noDocument (.notObject path found))
  | .error (.syntaxFault fault) => .error (.noDocument (.notJson path text fault))
  | .error .tooDeep => .error .tooDeep
  | .error (.hugeInteger digits) => .error (.hugeInteger digits)

def load (view : FileView) (path : Path) : Except Failure Members :=
  if path.holdsZero then .error .zeroInPath
  else
    match view.read path with
    | .ok bytes => (textOf bytes).bind (ofText path)
    | .error cause => .error (.noDocument (.unreadable path cause))

end SchemaOutline.Document
