import SchemaOutline.Failure

/-!
# Checked values

Reading a record from JSON checks all of its fields and reports the faults of all of them, in the
order of the fields. `Checked` is the result of such a check: a value, or the faults that were
found. Two checks side by side put their faults together, which `Except` would not.
-/

set_option autoImplicit false

namespace SchemaOutline

inductive Checked (α : Type) where
  | accepted (value : α)
  | rejected (faults : List Fault)
deriving Repr

namespace Checked

variable {α β : Type}

def faults : Checked α → List Fault
  | accepted _ => []
  | rejected faults => faults

def map (f : α → β) : Checked α → Checked β
  | accepted value => accepted (f value)
  | rejected faults => rejected faults

/-- Applies a checked function to a checked value; the faults of both sides add up. -/
def both (f : Checked (α → β)) (x : Checked α) : Checked β :=
  match f, x with
  | accepted f, accepted value => accepted (f value)
  | f, x => rejected (f.faults ++ x.faults)

instance : Applicative Checked where
  pure := accepted
  seq f x := both f (x ())

def below (step : Step) : Checked α → Checked α
  | accepted value => accepted value
  | rejected faults =>
    rejected (faults.map fun fault => { fault with place := step :: fault.place })

def fail (mismatch : Mismatch) : Checked α := rejected [⟨[], mismatch⟩]

def items (check : Json → Checked α) (values : List Json) : Checked (List α) :=
  values.zipIdx.foldr
    (fun (v, i) rest => List.cons <$> (check v).below (.index i) <*> rest) (accepted [])

def toExcept (form : Form) : Checked α → Except Failure α
  | accepted value => .ok value
  | rejected faults => .error (.refused form faults)

def text : Json → Checked String
  | .str s => accepted s
  | _ => fail .notText

def any : Json → Checked Json := accepted

def object : Json → Checked Members
  | .obj members => accepted members
  | _ => fail .notObject

def list (check : Json → Checked α) : Json → Checked (List α)
  | .arr values => items check values
  | _ => fail .notList

def optional (check : Json → Checked α) : Json → Checked (Option α)
  | .null => accepted none
  | v => (check v).map some

/-- The value of a field under the first of its names that is present, and that name. -/
def field? (members : Members) (names : List String) : Option (String × Json) :=
  names.findSome? fun name => (members.get? name).map fun v => (name, v)

def required (members : Members) (names : List String) (check : Json → Checked α) : Checked α :=
  match field? members names with
  | some (name, v) => (check v).below (.key name)
  | none => (fail .missing).below (.key (names.headD ""))

def withDefault (members : Members) (names : List String) (default : α)
    (check : Json → Checked α) : Checked α :=
  match field? members names with
  | some (name, v) => (check v).below (.key name)
  | none => accepted default

end Checked

end SchemaOutline
