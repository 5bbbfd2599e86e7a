import SchemaOutline.Checked.Scalar
import SchemaOutline.Document
import SchemaOutline.Session
import SchemaOutline.Settings.VariableFile
import SchemaOutline.Text.LetterCase

/-!
# Settings

Four settings say when a document is left to a job, whether `allOf` lists are folded, and where jobs
are done. Each of them comes from the first of these sources that has it: explicit fields, the
environment, a file of variables in the working directory, a default.
-/

set_option autoImplicit false

namespace SchemaOutline

inductive Workplace where
  | thread
  | process
deriving Repr, DecidableEq

def Workplace.name : Workplace → String
  | .thread => "thread"
  | .process => "process"

structure Settings where
  limit : Int
  foldsAllOf : Bool
  workplace : Workplace
  workers : Int
deriving Repr, DecidableEq

namespace Settings

def names : List String := ["max_rows", "merge_all_of", "executor", "max_workers"]

/-- What the name of an environment variable starts with, in any case of letters. -/
def variableStem : String := "schema_lens_"

def variableFile : Path := Path.ofText ".env"

def workplaceNamed (v : Json) : Checked Workplace :=
  match [Workplace.thread, .process].find? fun workplace => v == .str workplace.name with
  | some workplace => .accepted workplace
  | none => .fail .notOffered

def ofFields (fields : Members) : Except Failure Settings :=
  Checked.toExcept .settings
    (Settings.mk
      <$> Checked.withDefault fields ["max_rows"] defaultLimit (Checked.integerFrom 0)
      <*> Checked.withDefault fields ["merge_all_of"] true Checked.truth
      <*> Checked.withDefault fields ["executor"] .thread workplaceNamed
      <*> Checked.withDefault fields ["max_workers"] 1 (Checked.integerFrom 1))

def spells (text name : String) : Bool := Text.lowercase text.toList == name.toList

def lookup? {α : Type} (bound : List (String × α)) (name : String) : Option α :=
  (bound.reverse.find? fun entry => spells entry.1 (variableStem ++ name)).map Prod.snd

def explicit? (explicit : Members) (name : String) : Option Json :=
  (explicit.find? fun field => spells field.1 name).map Prod.snd

def variablesOfFile (environment : List (String × String)) (view : FileView) :
    Except Failure (List VariableFile.Binding) :=
  match view.read variableFile with
  | .ok bytes =>
    (Document.textOf bytes).map fun text => VariableFile.resolved environment text.toList
  | .error _ => .ok []

/-- The fields that are given somewhere, from the first source that has them. -/
def fields (explicit : Members) (environment : List (String × String))
    (bindings : List VariableFile.Binding) : Members :=
  names.filterMap fun name =>
    let fromVariables :=
      (lookup? environment name).orElse fun _ => (lookup? bindings name).join
    ((explicit? explicit name).orElse fun _ => fromVariables.map .str).map fun v => (name, v)

def gather (explicit : Members) (environment : List (String × String)) (view : FileView) :
    Except Failure Settings := do
  let bindings ← variablesOfFile environment view
  ofFields (fields explicit environment bindings)

def overriding (settings : Settings) (limit : Option Int) (foldsAllOf : Option Bool) : Settings :=
  { settings with
    limit := limit.getD settings.limit
    foldsAllOf := foldsAllOf.getD settings.foldsAllOf }

def display (settings : Settings) : String :=
  let folds := (Json.bool settings.foldsAllOf).literal
  let workplace := Text.quoted settings.workplace.name
  let limit := s!"max_rows={settings.limit}, merge_all_of={folds}"
  let jobs := s!"executor={workplace}, max_workers={settings.workers}"
  s!"Config({limit}, {jobs})"

end Settings

end SchemaOutline
