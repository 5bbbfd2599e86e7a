import SchemaOutline.CommandLine.Words
import SchemaOutline.Path
import SchemaOutline.Text.Numeral

/-!
# Commands

The words of a command line ask for one of three actions on the file that they name: to show the
outline of its document, to estimate the size of that outline, or to export it. `Command.ofWords?`
reads them and refuses what does not fit: unknown options, values of the wrong form, and a number
of files other than one.
-/

set_option autoImplicit false

namespace SchemaOutline.CommandLine

inductive Action where
  | display
  | estimate
  | serialize
deriving Repr, DecidableEq

namespace Action

def name : Action → String
  | .display => "show"
  | .estimate => "estimate"
  | .serialize => "export"

def ofName? (name : String) : Option Action :=
  [Action.display, .estimate, .serialize].find? fun action => action.name == name

def sharedSpellings : List Spelling :=
  [⟨"--merge-all-of", none, false⟩, ⟨"--no-merge-all-of", none, false⟩,
    ⟨"--verbose", some 'v', false⟩, ⟨"--help", none, false⟩]

def limitSpelling : Spelling := ⟨"--max-rows", some 'n', true⟩

def outputSpelling : Spelling := ⟨"--output", some 'o', true⟩

def spellings : Action → List Spelling
  | .display =>
    limitSpelling :: outputSpelling :: ⟨"--format", some 'f', true⟩ :: ⟨"--timeout", none, true⟩
      :: sharedSpellings
  | .estimate => limitSpelling :: sharedSpellings
  | .serialize => outputSpelling :: sharedSpellings

end Action

inductive Patience where
  | unlimited
  | none
  | limited
  | endless
deriving Repr, DecidableEq

namespace Patience

/-- The patience of a number of seconds. A clock counts `2 ^ 63` billionths of a second. -/
def ofSeconds (seconds : Float) : Patience :=
  if 9223372036854775808.0 ≤ seconds * 1000000000.0 then .endless
  else if 0.0 < seconds then .limited
  else .none

end Patience

structure Command where
  action : Action
  path : Path
  limit : Option Int
  foldsAllOf : Option Bool
  asTable : Bool
  output : Option Path
  patience : Patience
  verbose : Bool
deriving Repr, DecidableEq

inductive Request where
  | command (command : Command)
  | help
deriving Repr, DecidableEq

namespace Command

def optional {α : Type} (words : Words) (long : String) (read : String → Option α) :
    Option (Option α) :=
  match words.value? long with
  | none => some none
  | some value => (read value).map some

def limit? (value : String) : Option Int :=
  match Text.integer value with
  | .ok n => if n < 0 then none else some n
  | .error _ => none

def path? (value : String) : Option Path :=
  if value.toList.contains '\x00' then none else some (Path.ofText value)

/-- Whether folding was asked for or ruled out; the last word on it counts. -/
def folding (words : Words) : Option Bool :=
  words.options.reverse.findSome? fun (long, _) =>
    if long == "--merge-all-of" then some true
    else if long == "--no-merge-all-of" then some false
    else none

def ofOptions? (action : Action) (words : Words) : Option Command := do
  let limit ← optional words "--max-rows" limit?
  let seconds ← optional words "--timeout" Text.real?
  let output ← optional words "--output" path?
  match words.operands with
  | [operand] =>
    let path ← path? operand
    some
      { action, path, limit, output
        foldsAllOf := folding words
        asTable := (words.value? "--format").getD "table" == "table"
        patience := (seconds.map Patience.ofSeconds).getD .unlimited
        verbose := words.has "--verbose" }
  | _ => none

end Command

namespace Request

def ofArguments? (action : Action) (arguments : List String) : Option Request := do
  let words ← Words.read action.spellings arguments
  if words.has "--help" then some .help
  else (Command.ofOptions? action words).map .command

/-- The request of a command line; two hyphens may stand in front of the action. -/
def ofWords? (words : List String) : Option Request :=
  match words with
  | "--help" :: _ => some .help
  | "--" :: name :: arguments | name :: arguments => do
    let action ← Action.ofName? name
    ofArguments? action arguments
  | [] => none

end Request

end SchemaOutline.CommandLine
