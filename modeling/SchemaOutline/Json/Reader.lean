import SchemaOutline.Json
import SchemaOutline.Text.Digit

/-!
# Reading JSON text

The reader takes the text from the left and, where the text is wrong, says what it expected and
where. A fault is kept as the number of characters that were left at that place; offset, line and
column follow from the whole text (`SyntaxFault.describe`). Beside the standard's syntax the reader
takes `NaN`, `Infinity` and `-Infinity`. Containers may not nest beyond a given depth, and a single
integer may not have more than `Text.digitLimit` digits.
-/

set_option autoImplicit false

namespace SchemaOutline.Json

inductive SyntaxCause where
  | byteOrderMark
  | value
  | propertyName
  | colon
  | comma
  | unterminatedString
  | controlCharacter
  | escape
  | unicodeEscape
  | extraData
deriving Repr, DecidableEq

def SyntaxCause.text : SyntaxCause → String
  | .byteOrderMark => "Unexpected UTF-8 BOM (decode using utf-8-sig)"
  | .value => "Expecting value"
  | .propertyName => "Expecting property name enclosed in double quotes"
  | .colon => "Expecting ':' delimiter"
  | .comma => "Expecting ',' delimiter"
  | .unterminatedString => "Unterminated string starting at"
  | .controlCharacter => "Invalid control character at"
  | .escape => "Invalid \\escape"
  | .unicodeEscape => "Invalid \\uXXXX escape"
  | .extraData => "Extra data"

/-- A cause and the number of characters that were left where it was found. -/
structure SyntaxFault where
  cause : SyntaxCause
  remaining : Nat
deriving Repr, DecidableEq

def SyntaxFault.describe (fault : SyntaxFault) (text : String) : String :=
  let before := text.toList.take (text.length - fault.remaining)
  let line := before.count '\n' + 1
  let column := (before.reverse.takeWhile (· != '\n')).length + 1
  s!"{fault.cause.text}: line {line} column {column} (char {before.length})"

inductive ReadFault where
  | syntaxFault (fault : SyntaxFault)
  | tooDeep
  | hugeInteger (digits : Nat)
deriving Repr, DecidableEq

namespace Reader

def fail {α : Type} (cause : SyntaxCause) (rest : List Char) : Except ReadFault α :=
  .error (.syntaxFault ⟨cause, rest.length⟩)

def isBlank (c : Char) : Bool := c == ' ' || c == '\t' || c == '\n' || c == '\r'

def skipBlanks (cs : List Char) : List Char := cs.dropWhile isBlank

def isDigit (c : Char) : Bool := '0' ≤ c && c ≤ '9'

def hexDigit? (c : Char) : Option Nat :=
  if isDigit c then some (c.toNat - '0'.toNat)
  else if 'a' ≤ c && c ≤ 'f' then some (c.toNat - 'a'.toNat + 10)
  else if 'A' ≤ c && c ≤ 'F' then some (c.toNat - 'A'.toNat + 10)
  else none

def fourHex? : List Char → Option Nat
  | a :: b :: c :: d :: _ :: _ => do
    let a ← hexDigit? a
    let b ← hexDigit? b
    let c ← hexDigit? c
    let d ← hexDigit? d
    some (((a * 16 + b) * 16 + c) * 16 + d)
  | _ => none

def isHighSurrogate (unit : Nat) : Bool := 0xD800 ≤ unit && unit < 0xDC00

def isLowSurrogate (unit : Nat) : Bool := 0xDC00 ≤ unit && unit < 0xE000

/-- What follows a backslash and a `u`, one unit or a pair of surrogates, and how many characters it
takes up. `here` starts at the `u`. -/
def unicodeChar (here : List Char) : Except ReadFault (Char × Nat) :=
  match fourHex? (here.drop 1) with
  | none => fail .unicodeEscape here
  | some unit =>
    let rest := here.drop 5
    if isHighSurrogate unit && !(rest.drop 6).isEmpty && rest.take 2 == ['\\', 'u'] then
      match fourHex? (rest.drop 2) with
      | none => fail .unicodeEscape (rest.drop 1)
      | some low =>
        if isLowSurrogate low then
          .ok (Char.ofNat (0x10000 + (unit - 0xD800) * 0x400 + (low - 0xDC00)), 11)
        else .ok (Char.ofNat unit, 5)
    else .ok (Char.ofNat unit, 5)

def shortEscape? (c : Char) : Option Char :=
  if c == '"' || c == '\\' || c == '/' then some c
  else if c == 'b' then some '\x08'
  else if c == 'f' then some '\x0c'
  else if c == 'n' then some '\n'
  else if c == 'r' then some '\r'
  else if c == 't' then some '\t'
  else none

/-- The characters up to the closing quote, the ones already read in reverse. `start` is the text
from the opening quote on; the number says how many of the next characters belong to an escape that
has been read. -/
def stringBody (start : List Char) :
    Nat → List Char → List Char → Except ReadFault (String × List Char)
  | _, _, [] => fail .unterminatedString start
  | escaped + 1, done, _ :: rest => stringBody start escaped done rest
  | 0, done, c :: rest =>
    if c == '"' then .ok (String.ofList done.reverse, rest)
    else if c == '\\' then
      match rest.head? with
      | none => fail .unterminatedString start
      | some 'u' => do
        let (plain, size) ← unicodeChar rest
        stringBody start size (plain :: done) rest
      | some letter =>
        match shortEscape? letter with
        | some plain => stringBody start 1 (plain :: done) rest
        | none => fail .escape (c :: rest)
    else if c.toNat < 0x20 then fail .controlCharacter (c :: rest)
    else stringBody start 0 (c :: done) rest

def string (cs : List Char) : Except ReadFault (String × List Char) :=
  stringBody cs 0 [] (cs.drop 1)

def digitsValue (digits : List Char) : Nat :=
  digits.foldl (fun n d => n * 10 + (d.toNat - '0'.toNat)) 0

def fraction? : List Char → Option (List Char × List Char)
  | '.' :: rest =>
    let digits := rest.takeWhile isDigit
    if digits.isEmpty then none else some (digits, rest.drop digits.length)
  | _ => none

def exponent? : List Char → Option (Int × List Char)
  | mark :: rest =>
    if mark == 'e' || mark == 'E' then
      let (negative, unsigned) :=
        match rest with
        | '-' :: more => (true, more)
        | '+' :: more => (false, more)
        | _ => (false, rest)
      let digits := unsigned.takeWhile isDigit
      if digits.isEmpty then none
      else
        let size : Int := digitsValue digits
        some (if negative then -size else size, unsigned.drop digits.length)
    else none
  | [] => none

def wholeDigits? (cs : List Char) : Option (List Char) :=
  match cs with
  | '0' :: _ => some ['0']
  | c :: _ => if isDigit c then some (cs.takeWhile isDigit) else none
  | [] => none

def number (cs : List Char) : Except ReadFault (Json × List Char) :=
  let (negative, unsigned) :=
    match cs with
    | '-' :: rest => (true, rest)
    | _ => (false, cs)
  match wholeDigits? unsigned with
  | none => fail .value cs
  | some whole =>
    let rest := unsigned.drop whole.length
    let (places, rest) := (fraction? rest).getD ([], rest)
    let isInteger := places.isEmpty
    match exponent? rest with
    | some (power, rest) =>
      let digits := digitsValue (whole ++ places)
      .ok (.float (Binary64.ofDecimal negative digits (power - places.length)), rest)
    | none =>
      if !isInteger then
        let digits := digitsValue (whole ++ places)
        .ok (.float (Binary64.ofDecimal negative digits (-(places.length : Int))), rest)
      else if Text.digitLimit < whole.length then .error (.hugeInteger whole.length)
      else
        let n : Int := digitsValue whole
        .ok (.int (if negative then -n else n), rest)

def words : List (String × Json) :=
  [("null", .null), ("true", .bool true), ("false", .bool false), ("NaN", .float (0.0 / 0.0)),
    ("Infinity", .float (1.0 / 0.0)), ("-Infinity", .float (-1.0 / 0.0))]

def word? (cs : List Char) : Option (Json × List Char) :=
  words.findSome? fun (word, v) =>
    if word.toList.isPrefixOf cs then some (v, cs.drop word.length) else none

mutual
/-- One value without blanks before it. Every call uses up one unit of fuel, every container one
unit of room. -/
def value : Nat → Nat → List Char → Except ReadFault (Json × List Char)
  | 0, _, _ => .error .tooDeep
  | fuel + 1, room, cs =>
    match cs with
    | '"' :: _ => do
      let (s, rest) ← string cs
      .ok (.str s, rest)
    | '[' :: rest =>
      match room with
      | 0 => .error .tooDeep
      | room + 1 =>
        match skipBlanks rest with
        | ']' :: rest => .ok (.arr [], rest)
        | rest => do
          let (items, rest) ← itemsFrom fuel room [] rest
          .ok (.arr items, rest)
    | '\x7b' :: rest =>
      match room with
      | 0 => .error .tooDeep
      | room + 1 =>
        match skipBlanks rest with
        | '\x7d' :: rest => .ok (.obj [], rest)
        | rest => do
          let (pairs, rest) ← pairsFrom fuel room [] rest
          .ok (.obj (Members.ofPairs pairs), rest)
    | _ =>
      match word? cs with
      | some (v, rest) => .ok (v, rest)
      | none => number cs

def itemsFrom :
    Nat → Nat → List Json → List Char → Except ReadFault (List Json × List Char)
  | 0, _, _, _ => .error .tooDeep
  | fuel + 1, room, done, cs => do
    let (v, rest) ← value fuel room cs
    match skipBlanks rest with
    | ']' :: rest => .ok ((v :: done).reverse, rest)
    | ',' :: rest => itemsFrom fuel room (v :: done) (skipBlanks rest)
    | rest => fail .comma rest

def pairsFrom : Nat → Nat → List (String × Json) → List Char →
    Except ReadFault (List (String × Json) × List Char)
  | 0, _, _, _ => .error .tooDeep
  | fuel + 1, room, done, cs =>
    match cs with
    | '"' :: _ => do
      let (name, rest) ← string cs
      match skipBlanks rest with
      | ':' :: rest => do
        let (v, rest) ← value fuel room (skipBlanks rest)
        match skipBlanks rest with
        | '\x7d' :: rest => .ok (((name, v) :: done).reverse, rest)
        | ',' :: rest => pairsFrom fuel room ((name, v) :: done) (skipBlanks rest)
        | rest => fail .comma rest
      | rest => fail .colon rest
    | _ => fail .propertyName cs
end

end Reader

/-- Reads a text that holds one value with at most `room` containers inside each other. -/
def read (room : Nat) (text : String) : Except ReadFault Json := do
  let cs := text.toList
  if cs.head? == some '\ufeff' then Reader.fail .byteOrderMark cs
  let (v, rest) ← Reader.value (2 * cs.length + 2) room (Reader.skipBlanks cs)
  match Reader.skipBlanks rest with
  | [] => .ok v
  | rest => Reader.fail .extraData rest

end SchemaOutline.Json
