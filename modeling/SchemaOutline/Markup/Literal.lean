import SchemaOutline.Text.Digit
import SchemaOutline.Text.Split
import SchemaOutline.Text.Utf8
import SchemaOutline.Text.WordCharacter

/-!
# Literals

The parameters of an action are a literal: a number, which may have a sign and an imaginary part, a
text or bytes between quotes, `True`, `False`, `None` or `...`, a tuple, a set, or a dictionary.
Tuples outside of brackets are literals too. What counts here is whether a text is a literal at all
(`Literal.accepts`); its value is of no interest.
-/

set_option autoImplicit false

namespace SchemaOutline.Markup.Literal

open Text

/-- What has to be known of a part of a literal to tell whether the whole is one. -/
inductive Shape where
  | number (imaginary : Bool)
  | signed (imaginary : Bool)
  | other (hashable : Bool)
  /-- The name `set`, which is a literal only in front of an empty pair of brackets. -/
  | setName
deriving Repr, DecidableEq

def Shape.isHashable : Shape → Bool
  | .number _ | .signed _ | .other true => true
  | .other false | .setName => false

abbrev Reading (α : Type) := List Char → Option (α × List Char)

/-- The number of brackets that may be open at a time. -/
def bracketLimit : Nat := 200

/-! ## Blanks -/

/-- Without blanks and comments at the start. Line ends are blanks between brackets only, or behind
a backslash. -/
def skipFrom (bracketed : Bool) : Bool → List Char → List Char
  | _, [] => []
  | false, '\\' :: '\n' :: rest => skipFrom bracketed false rest
  | inComment, c :: rest =>
    if c == '\n' then
      if bracketed then skipFrom bracketed false rest else c :: rest
    else if inComment then skipFrom bracketed true rest
    else if c == '#' then skipFrom bracketed true rest
    else if c == ' ' || c == '\t' || c == '\x0c' then skipFrom bracketed false rest
    else c :: rest

def skip (bracketed : Bool) (cs : List Char) : List Char := skipFrom bracketed false cs

/-! ## Numbers -/

def isDigits (isDigit : Char → Bool) (cs : List Char) : Bool :=
  (splitWhere (· == '_') cs).all fun group => !group.isEmpty && group.all isDigit

def digitRun (isDigit : Char → Bool) (cs : List Char) : List Char :=
  cs.takeWhile fun c => isDigit c || c == '_'

def baseDigit? (letter : Char) : Option (Char → Bool) :=
  match letter.toLower with
  | 'x' => some fun c => c.isDigit || ('a' ≤ c.toLower && c.toLower ≤ 'f')
  | 'o' => some fun c => '0' ≤ c && c ≤ '7'
  | 'b' => some fun c => c == '0' || c == '1'
  | _ => none

def optionalDigits? (cs : List Char) : Option (List Char × List Char) :=
  let run := digitRun Char.isDigit cs
  if run.isEmpty then some ([], cs)
  else if isDigits Char.isDigit run then some (run, cs.drop run.length)
  else none

def exponent? (cs : List Char) : Option (Bool × List Char) :=
  match cs with
  | c :: rest =>
    if c == 'e' || c == 'E' then
      let digits := match rest with
        | '+' :: rest | '-' :: rest => rest
        | _ => rest
      match optionalDigits? digits with
      | some ([], _) | none => none
      | some (_, rest) => some (true, rest)
    else some (false, cs)
  | [] => some (false, [])

def goesOn (c : Char) : Bool := c.isAlphanum || c == '_' || 128 ≤ c.toNat

/-- A decimal number. An integer starts with a zero only if it is zero, and it is not too long. -/
def decimal : Reading Shape := fun cs => do
  let (whole, rest) ← optionalDigits? cs
  let (places, hasPoint, rest) ← match rest with
    | '.' :: rest => (optionalDigits? rest).map fun (places, rest) => (places, true, rest)
    | _ => some ([], false, rest)
  if whole.isEmpty && places.isEmpty then none
  else
    let (hasExponent, rest) ← exponent? rest
    let imaginary := rest.head?.any fun c => c == 'j' || c == 'J'
    let rest := if imaginary then rest.drop 1 else rest
    let digits := whole.filter (· != '_')
    let isPadded := digits.head? == some '0' && digits.any (· != '0')
    let isInteger := !hasPoint && !hasExponent && !imaginary
    if isInteger && (isPadded || digitLimit < digits.length) then none
    else if rest.head?.any goesOn then none
    else some (.number imaginary, rest)

def number : Reading Shape := fun cs =>
  match cs with
  | '0' :: letter :: rest =>
    match baseDigit? letter with
    | some isDigit =>
      let run := digitRun isDigit rest
      let digits := if run.head? == some '_' then run.drop 1 else run
      let after := rest.drop run.length
      if isDigits isDigit digits && !after.head?.any goesOn then some (.number false, after)
      else none
    | none => decimal cs
  | _ => decimal cs

/-! ## Texts -/

def isHexadecimal (c : Char) : Bool := c.isDigit || ('a' ≤ c.toLower && c.toLower ≤ 'f')

def hexadecimal (cs : List Char) : Nat :=
  cs.foldl
    (fun n c => n * 16 + (if c.isDigit then c.toNat - 48 else c.toLower.toNat - 87)) 0

def startsHexadecimal (n : Nat) (cs : List Char) : Bool :=
  (cs.take n).length == n && (cs.take n).all isHexadecimal

def escapesFit (bytes : Bool) : List Char → Bool
  | '\\' :: c :: rest =>
    let fits :=
      if c == 'x' then startsHexadecimal 2 rest
      else if bytes then true
      else if c == 'u' then startsHexadecimal 4 rest
      else if c == 'U' then startsHexadecimal 8 rest && hexadecimal (rest.take 8) ≤ 0x10ffff
      else if c == 'N' then rest.head? == some '\x7b' && (rest.drop 1).contains '\x7d'
      else true
    fits && escapesFit bytes rest
  | _ :: rest => escapesFit bytes rest
  | [] => true

/-- Splits a text at its closing quotes; a backslash takes the next character with it. A line ends
within triple quotes only. -/
def body? (quote : Char) (triple : Bool) : List Char → Option (List Char × List Char)
  | [] => none
  | '\\' :: c :: rest =>
    (body? quote triple rest).map fun (body, rest) => ('\\' :: c :: body, rest)
  | c :: rest =>
    if triple then
      if c == quote && rest.take 2 == [quote, quote] then some ([], rest.drop 2)
      else (body? quote triple rest).map fun (body, rest) => (c :: body, rest)
    else if c == quote then some ([], rest)
    else if c == '\n' then none
    else (body? quote triple rest).map fun (body, rest) => (c :: body, rest)

def quoteLetters? (letters : List Char) : Option (Bool × Bool) :=
  match letters.map Char.toLower with
  | [] | ['u'] => some (false, false)
  | ['r'] => some (true, false)
  | ['b'] => some (false, true)
  | ['b', 'r'] | ['r', 'b'] => some (true, true)
  | _ => none

def quoted : Reading Bool := fun cs => do
  let letters := cs.takeWhile Char.isAlpha
  let (raw, bytes) ← quoteLetters? letters
  match cs.drop letters.length with
  | quote :: rest =>
    if quote != '\'' && quote != '"' then none
    else
      let triple := rest.take 2 == [quote, quote]
      let (body, after) ← body? quote triple (if triple then rest.drop 2 else rest)
      if !raw && !escapesFit bytes body then none
      else if bytes && body.any fun c => 128 ≤ c.toNat then none
      else some (bytes, after)
  | [] => none

/-- Texts one behind the other, which are one text. They are all texts or all bytes. -/
def quotedRow (bracketed : Bool) : Nat → Reading Bool
  | 0, _ => none
  | fuel + 1, cs => do
    let (bytes, rest) ← quoted cs
    let next := skip bracketed rest
    match next.head? with
    | some c =>
      if c == '\'' || c == '"' || (c.isAlpha && (quoted next).isSome) then
        let (others, rest) ← quotedRow bracketed fuel next
        if others == bytes then some (bytes, rest) else none
      else some (bytes, rest)
    | none => some (bytes, rest)

/-! ## Expressions -/

def series {α : Type} (item : Reading α) (bracketed : Bool) (isEnd : List Char → Bool) :
    Nat → Reading (List α × Bool)
  | 0, _ => none
  | fuel + 1, cs => do
    let (first, rest) ← item cs
    match skip bracketed rest with
    | ',' :: rest =>
      let rest := skip bracketed rest
      if isEnd rest then some (([first], true), rest)
      else
        let ((others, _), rest) ← series item bracketed isEnd fuel rest
        some ((first :: others, true), rest)
    | rest => some (([first], false), rest)

def bracketed (expression : Reading Shape) : Reading Shape := fun cs =>
  match skip true cs with
  | ')' :: rest => some (.other true, rest)
  | start => do
    let ((shapes, comma), rest) ←
      series expression true (fun rest => rest.head? == some ')') start.length start
    match rest, shapes, comma with
    | ')' :: rest, [shape], false => some (shape, rest)
    | ')' :: rest, _, _ =>
      if shapes.contains .setName then none else some (.other (shapes.all Shape.isHashable), rest)
    | _, _, _ => none

def entry (expression : Reading Shape) : Reading Bool := fun cs => do
  let (key, rest) ← expression cs
  if !key.isHashable then none
  else
    match skip true rest with
    | ':' :: rest =>
      let (value, rest) ← expression (skip true rest)
      if value == .setName then none else some (true, rest)
    | rest => some (false, rest)

def braced (expression : Reading Shape) : Reading Shape := fun cs =>
  match skip true cs with
  | '\x7d' :: rest => some (.other false, rest)
  | start => do
    let ((pairs, _), rest) ←
      series (entry expression) true (fun rest => rest.head? == some '\x7d') start.length start
    match rest with
    | '\x7d' :: rest =>
      if pairs.all id || pairs.all not then some (.other false, rest) else none
    | _ => none

def name : Reading Shape := fun cs =>
  let word := cs.takeWhile goesOn
  let rest := cs.drop word.length
  if word == "set".toList then some (.setName, rest)
  else if ["True", "False", "None"].contains (String.ofList word) then some (.other true, rest)
  else none

/-- An expression without operators. `inner` reads what stands between brackets, `none` where no
more of them may open. -/
def atom (inBrackets : Bool) (inner : Option (Reading Shape)) : Reading Shape := fun cs =>
  match cs with
  | '(' :: rest => inner.bind fun expression => bracketed expression rest
  | '\x7b' :: rest => inner.bind fun expression => braced expression rest
  | '.' :: '.' :: '.' :: rest => some (.other true, rest)
  | c :: _ =>
    if c.isDigit || c == '.' then number cs
    else
      match quotedRow inBrackets cs.length cs with
      | some (_, rest) => some (.other true, rest)
      | none => name cs
  | [] => none

def primary (inBrackets : Bool) (inner : Option (Reading Shape)) : Reading Shape := fun cs => do
  let (shape, rest) ← atom inBrackets inner cs
  match shape, skip inBrackets rest with
  | .setName, '(' :: rest =>
    match inner.isSome, skip true rest with
    | true, ')' :: rest => some (.other false, rest)
    | _, _ => none
  | _, _ => some (shape, rest)

def factor (inBrackets : Bool) (inner : Option (Reading Shape)) : Reading Shape := fun cs =>
  match cs with
  | '+' :: rest | '-' :: rest =>
    match primary inBrackets inner (skip inBrackets rest) with
    | some (.number imaginary, rest) => some (.signed imaginary, rest)
    | _ => none
  | _ => primary inBrackets inner cs

/-- A factor, or the sum or difference of a real and an imaginary number. -/
def sum (inBrackets : Bool) (inner : Option (Reading Shape)) : Reading Shape := fun cs => do
  let (left, rest) ← factor inBrackets inner cs
  match skip inBrackets rest with
  | '+' :: after | '-' :: after =>
    let (right, rest) ← primary inBrackets inner (skip inBrackets after)
    if (left == .number false || left == .signed false) && right == .number true then
      some (.other true, rest)
    else none
  | _ => some (left, rest)

/-- An expression inside of so many brackets; `fuel` is the number of those that may still open. -/
def expression (inBrackets : Bool) : Nat → Reading Shape
  | 0, cs => sum inBrackets none cs
  | fuel + 1, cs => sum inBrackets (some (expression true fuel)) cs

def isOver (cs : List Char) : Bool := (skip true (skip false cs)).isEmpty

def accepts (text : List Char) : Bool :=
  let cs := skip true (withLineFeeds text)
  if cs.contains '\x00' then false
  else
    let isEnd (rest : List Char) : Bool := rest.head?.all (· == '\n')
    match series (expression false bracketLimit) false isEnd cs.length cs with
    | some ((shapes, _), rest) =>
      !shapes.contains .setName && rest.head?.all (· == '\n') && isOver rest
    | none => false

end SchemaOutline.Markup.Literal
