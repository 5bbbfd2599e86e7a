import SchemaOutline.Text.Blank

/-!
# Files of variables

A file of variables holds one `NAME=value` a line, with comments behind `#`, an optional `export` in
front, and values in single, double or no quotes. A name without an equals sign is bound to nothing.
What does not have this form is skipped to the end of its line. In the values, `${NAME}` and
`${NAME:-default}` stand for variables that are already known.
-/

set_option autoImplicit false

namespace SchemaOutline.VariableFile

open Text

abbrev Binding := String × Option String

/-! ## Values -/

/-- The value of an unquoted text: blanks in front of a `#` end it, and blanks at its end go. -/
def unquoted : List Char → List Char
  | [] => []
  | c :: rest =>
    if isSpacing c then
      let value := unquoted rest
      if (rest.dropWhile isSpacing).head? == some '#' || value.isEmpty then [] else c :: value
    else c :: unquoted rest

/-- The text up to the closing quote, and what follows it. A backslash takes the next character
with it. -/
def quoted? (quote : Char) : List Char → Option (List Char × List Char)
  | [] | ['\\'] => none
  | '\\' :: c :: rest =>
    (quoted? quote rest).map fun (inside, rest) => ('\\' :: c :: inside, rest)
  | c :: rest =>
    if c == quote then some ([], rest)
    else (quoted? quote rest).map fun (inside, rest) => (c :: inside, rest)

def doubleEscape? (c : Char) : Option Char :=
  match c with
  | '\\' | '\'' | '"' => some c
  | 'a' => some '\x07'
  | 'b' => some '\x08'
  | 'f' => some '\x0c'
  | 'n' => some '\n'
  | 'r' => some '\r'
  | 't' => some '\t'
  | 'v' => some '\x0b'
  | _ => none

def singleEscape? (c : Char) : Option Char :=
  if c == '\\' || c == '\'' then some c else none

/-- Replaces the escapes that are known and keeps all others. -/
def unescaped (escape? : Char → Option Char) : List Char → List Char
  | '\\' :: c :: rest =>
    match escape? c with
    | some plain => plain :: unescaped escape? rest
    | none => '\\' :: unescaped escape? (c :: rest)
  | c :: rest => c :: unescaped escape? rest
  | [] => []

def value? (cs : List Char) : Option (List Char × List Char) :=
  match cs.dropWhile isInlineSpacing with
  | '\'' :: rest => (quoted? '\'' rest).map (Prod.map (unescaped singleEscape?) id)
  | '"' :: rest => (quoted? '"' rest).map (Prod.map (unescaped doubleEscape?) id)
  | _ =>
    let line := cs.takeWhile (· != '\n')
    some ((unquoted line).dropWhile isSpacing, cs.drop line.length)

/-! ## Lines -/

def withoutExport (cs : List Char) : List Char :=
  let word := "export".toList
  if word.isPrefixOf cs then
    let rest := cs.drop word.length
    let name := rest.dropWhile isInlineSpacing
    if name.length < rest.length then name else cs
  else cs

def name? (cs : List Char) : Option (Option String × List Char) :=
  match cs with
  | '#' :: _ => some (none, cs)
  | '\'' :: rest =>
    let name := rest.takeWhile (· != '\'')
    match rest.drop name.length with
    | _ :: rest => if name.isEmpty then none else some (some (String.ofList name), rest)
    | [] => none
  | _ =>
    let name := cs.takeWhile fun c => c != '=' && c != '#' && !isSpacing c
    if name.isEmpty then none else some (some (String.ofList name), cs.drop name.length)

/-- The text behind the end of the line, where nothing but a comment may stand before that end. -/
def lineEnd? (cs : List Char) : Option (List Char) :=
  let rest := cs.dropWhile isInlineSpacing
  let rest := if rest.head? == some '#' then rest.dropWhile (· != '\n') else rest
  match rest with
  | [] => some []
  | '\n' :: rest => some rest
  | _ => none

def nextLine (cs : List Char) : List Char := (cs.dropWhile (· != '\n')).drop 1

def line (cs : List Char) : Option Binding × List Char :=
  let start := withoutExport cs
  match name? start with
  | none => (none, nextLine start)
  | some (name, rest) =>
    let rest := rest.dropWhile isInlineSpacing
    let (value, rest) : Option (Option (List Char)) × List Char :=
      match rest with
      | '=' :: rest =>
        match value? rest with
        | some (value, rest) => (some (some value), rest)
        | none => (none, rest)
      | _ => (some none, rest)
    match value, lineEnd? rest with
    | some value, some next =>
      (name.map fun name => (name, value.map String.ofList), next)
    | _, _ => (none, nextLine rest)

/-- The bindings of a text, line by line; every line takes at least one character. -/
def bindingsWithin : Nat → List Char → List Binding
  | 0, _ => []
  | fuel + 1, cs =>
    match cs.dropWhile isSpacing with
    | [] => []
    | start =>
      let (binding, rest) := line start
      binding.toList ++ bindingsWithin fuel rest

def bindings (cs : List Char) : List Binding :=
  let text := match cs with
    | '\ufeff' :: rest => rest
    | _ => cs
  bindingsWithin text.length text

/-! ## Variables in values -/

/-- What stands for a variable: its name and a default, and the text behind the closing brace. -/
def reference? (cs : List Char) : Option (String × String × List Char) :=
  match cs with
  | '$' :: '\x7b' :: rest =>
    let name := rest.takeWhile fun c => c != '\x7d' && c != ':'
    match rest.drop name.length with
    | '\x7d' :: after => some (String.ofList name, "", after)
    | ':' :: '-' :: rest =>
      let default := rest.takeWhile (· != '\x7d')
      match rest.drop default.length with
      | _ :: after => some (String.ofList name, String.ofList default, after)
      | [] => none
    | _ => none
  | _ => none

def expandWithin (known : String → Option (Option String)) : Nat → List Char → List Char
  | 0, _ => []
  | _, [] => []
  | fuel + 1, c :: rest =>
    match reference? (c :: rest) with
    | some (name, default, after) =>
      (((known name).getD (some default)).getD "").toList ++ expandWithin known fuel after
    | none => c :: expandWithin known fuel rest

def expand (known : String → Option (Option String)) (s : String) : String :=
  String.ofList (expandWithin known s.length s.toList)

def rebind : List Binding → Binding → List Binding
  | [], new => [new]
  | old :: rest, new => if old.1 == new.1 then new :: rest else old :: rebind rest new

/-- The variables of a file. Values may refer to earlier variables of the file and to the ones
around it; a later binding of a name replaces the earlier one. -/
def resolved (around : List (String × String)) (cs : List Char) : List Binding :=
  (bindings cs).foldl
    (fun bound (name, value) =>
      let known (name : String) : Option (Option String) :=
        (bound.lookup name).orElse fun _ => (around.lookup name).map some
      rebind bound (name, value.map (expand known)))
    []

end SchemaOutline.VariableFile
