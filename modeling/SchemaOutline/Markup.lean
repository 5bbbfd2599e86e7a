import SchemaOutline.Markup.Literal
import SchemaOutline.Markup.Pictograph
import SchemaOutline.Markup.Style
import SchemaOutline.Text.Fitting

/-!
# Markup

Text for a terminal can hold tags in square brackets: `[bold]` opens a style and `[/bold]`, or `[/]`
for whatever was opened last, closes it. A tag that starts with `@` binds an action, whose
parameters stand behind an equals sign and have to be a literal when the tag is closed. Without
colours tags vanish, but a closing tag still needs a style to close. A backslash in front of a tag
makes it text, and pictures may be written by their names.
-/

set_option autoImplicit false

namespace SchemaOutline.Markup

open Text

inductive Piece where
  | chunk (cs : List Char)
  | opening (name : List Char) (parameters : Option (List Char))
  /-- A closing tag; without a name it closes what was opened last. -/
  | closing (name : List Char)
deriving Repr, DecidableEq

def startsTag (c : Char) : Bool :=
  ('a' ≤ c && c ≤ 'z') || c == '#' || c == '/' || c == '@'

def tag? : List Char → Option (List Char × List Char)
  | '[' :: c :: rest =>
    let body := rest.takeWhile fun d => d != ']' && d != '['
    match rest.drop body.length with
    | ']' :: after => if startsTag c then some (c :: body, after) else none
    | _ => none
  | _ => none

def tagPiece (tag : List Char) : Piece :=
  let name := tag.takeWhile (· != '=')
  let parameters := match tag.drop name.length with
    | _ :: parameters => some parameters
    | [] => none
  match name with
  | '/' :: name => .closing (trim isSpacing name)
  | _ => .opening name parameters

/-- The pieces of a text behind the characters `pending`, of which the last comes first. Of the
backslashes in front of a tag every pair stands for one, and an odd one makes the tag text. -/
def piecesWithin : Nat → List Char → List Char → List Piece
  | 0, pending, _ => [.chunk pending.reverse]
  | fuel + 1, pending, cs =>
    let slashes := cs.takeWhile (· == '\\')
    match tag? (cs.drop slashes.length) with
    | some (tag, after) =>
      let piece :=
        if slashes.length % 2 == 1 then .chunk ('[' :: tag ++ [']']) else tagPiece tag
      .chunk pending.reverse :: .chunk (List.replicate (slashes.length / 2) '\\') :: piece
        :: piecesWithin fuel [] after
    | none =>
      match cs.drop slashes.length with
      | [] => [.chunk (pending.reverse ++ slashes)]
      | c :: rest => piecesWithin fuel (c :: (slashes ++ pending)) rest

def pieces (cs : List Char) : List Piece := piecesWithin (cs.length + 1) [] cs

def withoutSlashes : List Char → List Char
  | '\\' :: '[' :: rest => '[' :: withoutSlashes rest
  | c :: rest => c :: withoutSlashes rest
  | [] => []

def isSwallowed (c : Char) : Bool := [7, 8, 11, 12, 13].contains c.toNat

def visible (cs : List Char) : List Char :=
  (withPictographs (withoutSlashes cs)).filter fun c => !isSwallowed c

/-! ## Tags -/

structure OpenTag where
  start : Nat
  name : List Char
  parameters : Option (List Char)
deriving Repr, DecidableEq

namespace OpenTag

def isAction (tag : OpenTag) : Bool := tag.name.head? == some '@'

def style (tag : OpenTag) : List Char :=
  match tag.parameters with
  | some parameters => tag.name ++ ' ' :: parameters
  | none => tag.name

/-- The literal in the parameters of an action: what stands in brackets behind the name of a
handler, or all of it where they do not have this form. -/
def literal (parameters : List Char) : List Char :=
  let parameters := trim isSpacing parameters
  let handler := parameters.takeWhile fun c => isWordCharacter c || c == '.'
  match parameters.drop handler.length with
  | [] => ['(', ')']
  | '(' :: rest =>
    if rest.getLast? == some ')' && !rest.contains '\n' then '(' :: rest else parameters
  | _ => parameters

def isComplete (tag : OpenTag) : Bool :=
  match tag.isAction, tag.parameters with
  | true, some parameters => parameters.isEmpty || Literal.accepts (literal parameters)
  | _, _ => true

def stretch (tag : OpenTag) (stop : Nat) : Stretch :=
  ⟨tag.start, stop, if tag.isAction then [] else tag.style⟩

end OpenTag

/-- The first of some open tags that a name means, and the others; no name means the first. -/
def openTag? (name : List Char) : List OpenTag → Option (OpenTag × List OpenTag)
  | [] => none
  | tag :: rest =>
    if name.isEmpty || tag.name == name then some (tag, rest)
    else (openTag? name rest).map fun (found, rest) => (found, tag :: rest)

/-- A text of which a part has been read: its characters, the tags that are open, the last opened
one first, and the stretches that are complete, the last closed one first. -/
structure Progress where
  chars : List Char
  tags : List OpenTag
  stretches : List Stretch
deriving Repr, DecidableEq

namespace Progress

def read (progress : Progress) : Piece → Except Failure Progress
  | .chunk cs => .ok { progress with chars := progress.chars ++ visible cs }
  | .opening name parameters => do
    let name ← Style.canonical name
    let tag : OpenTag := ⟨progress.chars.length, name, parameters⟩
    .ok { progress with tags := tag :: progress.tags }
  | .closing name => do
    let name ← if name.isEmpty then .ok name else Style.canonical name
    match openTag? name progress.tags with
    | none => .error .straySlashTag
    | some (tag, tags) =>
      if tag.isComplete then
        let stretch := tag.stretch progress.chars.length
        .ok { progress with tags, stretches := stretch :: progress.stretches }
      else .error .unreadableParameters

/-- The text with its stretches in the order of their starts; where these are the same, a stretch
that was completed later comes first. Tags that are still open reach to the end, where an action
that is not closed is taken for a style. -/
def styled (progress : Progress) : Styled :=
  let left := progress.tags.map fun tag =>
    (⟨tag.start, progress.chars.length, tag.style⟩ : Stretch)
  ⟨progress.chars,
    (left.reverse ++ progress.stretches).mergeSort fun one other => one.start ≤ other.start⟩

end Progress

def parse (s : String) : Except Failure Styled :=
  ((pieces s.toList).foldlM Progress.read ⟨[], [], []⟩).map Progress.styled

def checkStyles (text : Styled) : Except Failure Unit :=
  text.stretches.forM fun stretch => (Style.read? stretch.style).map fun _ => ()

def terminalWidth : Nat := 1000

/-- The lines that a terminal shows of a text. -/
def shown (s : String) : Except Failure (List (List Char)) := do
  let text ← parse s
  let lines := (fitted .fold terminalWidth text).map (truncated .fold terminalWidth)
  lines.forM checkStyles
  .ok (lines.map (clipped terminalWidth))

end SchemaOutline.Markup
