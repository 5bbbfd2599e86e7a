/-!
# Words of a command line

A command line is a list of words. Words that start with a hyphen are options; a long option may
have its value behind an equals sign or in the next word, short ones may be joined into one word of
which the last may take a value. Everything else is an operand, and so is every word behind `--`.
-/

set_option autoImplicit false

namespace SchemaOutline.CommandLine

structure Spelling where
  long : String
  short : Option Char
  takesValue : Bool
deriving Repr, DecidableEq

structure Words where
  options : List (String × String)
  operands : List String
deriving Repr, DecidableEq

namespace Words

def withOptions (words : Words) (options : List (String × String)) : Words :=
  { words with options := options ++ words.options }

/-- What a word of options holds: options that are complete, and the one that takes the next word
as its value. -/
abbrev Held := List (String × String) × Option Spelling

def long? (spellings : List Spelling) (cs : List Char) : Option (Option Held) :=
  let name := String.ofList (cs.takeWhile (· != '='))
  (spellings.find? fun spelling => spelling.long == name).map fun spelling =>
    match cs.drop name.length, spelling.takesValue with
    | [], false => some ([(name, "")], none)
    | [], true => some ([], some spelling)
    | _ :: value, true => some ([(name, String.ofList value)], none)
    | _ :: _, false => none

def short? (spellings : List Spelling) : List Char → Option Held
  | [] => some ([], none)
  | c :: rest =>
    match spellings.find? fun spelling => spelling.short == some c with
    | none => none
    | some spelling =>
      if !spelling.takesValue then
        (short? spellings rest).map fun (options, pending) =>
          ((spelling.long, "") :: options, pending)
      else if rest.isEmpty then some ([], some spelling)
      else some ([(spelling.long, String.ofList rest)], none)

def held? (spellings : List Spelling) (cs : List Char) : Option Held :=
  match long? spellings cs with
  | some held => held
  | none => if "--".toList.isPrefixOf cs then none else short? spellings (cs.drop 1)

def isOption (word : String) : Bool := word.toList.head? == some '-' && word != "-"

/-- Sorts words into options and operands; `pending` is the option whose value comes next. -/
def readFrom (spellings : List Spelling) : Option Spelling → List String → Option Words
  | none, [] => some ⟨[], []⟩
  | some _, [] => none
  | some pending, word :: rest =>
    (readFrom spellings none rest).map fun words => words.withOptions [(pending.long, word)]
  | none, word :: rest =>
    if word == "--" then some ⟨[], rest⟩
    else if isOption word then
      match held? spellings word.toList with
      | none => none
      | some (options, pending) =>
        (readFrom spellings pending rest).map fun words => words.withOptions options
    else
      (readFrom spellings none rest).map fun words =>
        { words with operands := word :: words.operands }

/-- The options and operands of a command line, `none` where an option is unknown, lacks its value
or has one that it does not take. -/
def read (spellings : List Spelling) (words : List String) : Option Words :=
  readFrom spellings none words

/-- The value of an option that was given; the last one counts. -/
def value? (words : Words) (long : String) : Option String :=
  words.options.reverse.lookup long

def has (words : Words) (long : String) : Bool := (words.value? long).isSome

end Words

end SchemaOutline.CommandLine
