/-!
# Locations in a document

A location is the way from the root of a document to one of its values: member names and positions
in lists. It is written as a JSON pointer behind a `#`.
-/

set_option autoImplicit false

namespace SchemaOutline

inductive Step where
  | key (name : String)
  | index (position : Int)
deriving Repr, DecidableEq, Inhabited

abbrev Location := List Step

def Step.text : Step → String
  | .key name => name
  | .index position => toString position

/-- `~` and `/` have a meaning in pointers and are written `~0` and `~1`. -/
def escapePointer : List Char → List Char
  | [] => []
  | '~' :: rest => '~' :: '0' :: escapePointer rest
  | '/' :: rest => '~' :: '1' :: escapePointer rest
  | c :: rest => c :: escapePointer rest

def Step.pointerChars (step : Step) : List Char :=
  '/' :: escapePointer step.text.toList

def Location.pointer (location : Location) : String :=
  String.ofList ('#' :: location.flatMap Step.pointerChars)

end SchemaOutline
