import SchemaOutline.Markup.Colour
import SchemaOutline.Text.Blank

/-!
# Styles

A style is written as words: effects, some of which have a short form, effects that `not` rules out,
a colour, a colour of the ground behind `on`, and an address behind `link`. Of two words on one
thing the later one counts. All ways to write a style have one canonical text (`Style.text`), by
which closing tags find the tags that they close.
-/

set_option autoImplicit false

namespace SchemaOutline.Markup

open Text

inductive Effect where
  | bold
  | dim
  | italic
  | underline
  | blink
  | rapidBlink
  | reverse
  | conceal
  | strike
  | doubleUnderline
  | frame
  | encircle
  | overline
deriving Repr, DecidableEq

namespace Effect

def all : List Effect :=
  [bold, dim, italic, underline, blink, rapidBlink, reverse, conceal, strike, doubleUnderline,
    frame, encircle, overline]

def name : Effect → String
  | bold => "bold"
  | dim => "dim"
  | italic => "italic"
  | underline => "underline"
  | blink => "blink"
  | rapidBlink => "blink2"
  | reverse => "reverse"
  | conceal => "conceal"
  | strike => "strike"
  | doubleUnderline => "underline2"
  | frame => "frame"
  | encircle => "encircle"
  | overline => "overline"

def shortName? : Effect → Option String
  | bold => some "b"
  | dim => some "d"
  | italic => some "i"
  | underline => some "u"
  | reverse => some "r"
  | conceal => some "c"
  | strike => some "s"
  | doubleUnderline => some "uu"
  | overline => some "o"
  | blink | rapidBlink | frame | encircle => none

def ofName? (word : List Char) : Option Effect :=
  let word := String.ofList word
  all.find? fun effect => effect.name == word || effect.shortName? == some word

theorem mem_all (effect : Effect) : effect ∈ all := by
  cases effect <;> decide

end Effect

/-- What a style says: which effects there are or are not, the last word first, and the rest as it
is written. -/
structure Style where
  effects : List (Effect × Bool)
  colour : Option (List Char)
  ground : Option (List Char)
  link : Option (List Char)
deriving Repr, DecidableEq

namespace Style

def plain : Style := ⟨[], none, none, none⟩

def withEffect (style : Style) (effect : Effect) (present : Bool) : Style :=
  { style with effects := (effect, present) :: style.effects }

def effectWords (style : Style) (effect : Effect) : List (List Char) :=
  match style.effects.lookup effect with
  | some true => [effect.name.toList]
  | some false => ["not".toList, effect.name.toList]
  | none => []

def text (style : Style) : List Char :=
  let ground := style.ground.toList.flatMap fun ground => ["on".toList, ground]
  let link := style.link.toList.flatMap fun link => ["link".toList, link]
  match Effect.all.flatMap style.effectWords ++ style.colour.toList ++ ground ++ link with
  | [] => "none".toList
  | words => [' '].intercalate words

def ofWords (style : Style) : List (List Char) → Except Failure (Option Style)
  | [] => .ok (some style)
  | word :: rest =>
    let small := lowercase word
    if small == "on".toList then
      match rest with
      | [] => .ok none
      | ground :: rest =>
        match Colour.read? ground with
        | .error failure => .error failure
        | .ok none => .ok none
        | .ok (some ground) => ofWords { style with ground := some ground } rest
    else if small == "not".toList then
      match rest with
      | [] => .ok none
      | name :: rest =>
        match Effect.ofName? name with
        | none => .ok none
        | some effect => ofWords (style.withEffect effect false) rest
    else if small == "link".toList then
      match rest with
      | [] => .ok none
      | link :: rest => ofWords { style with link := some link } rest
    else
      match Effect.ofName? small with
      | some effect => ofWords (style.withEffect effect true) rest
      | none =>
        match Colour.read? small with
        | .error failure => .error failure
        | .ok none => .ok none
        | .ok (some colour) => ofWords { style with colour := some colour } rest

def read? (cs : List Char) : Except Failure (Option Style) :=
  if trim isSpacing cs == "none".toList then .ok (some plain)
  else ofWords plain ((splitWhere isSpacing cs).filter (· != []))

/-- The text by which a style is known: its canonical text, or the text itself in small letters. -/
def canonical (cs : List Char) : Except Failure (List Char) :=
  (read? cs).map fun style =>
    match style with
    | some style => style.text
    | none => lowercase (trim isSpacing cs)

end Style

end SchemaOutline.Markup
