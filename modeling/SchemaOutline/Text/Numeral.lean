import SchemaOutline.Binary64
import SchemaOutline.Text.Blank
import SchemaOutline.Text.Digit
import SchemaOutline.Text.Split

/-!
# Numerals

Numbers as people type them. Integers may have blanks around them, a sign, zeros in front, a point
and zeros behind, and single underscores between digits: `" +007 "`, `5.0` and `1_000` are integers.
Real numbers may have a point, an exponent and single underscores, and they may be infinite or no
number at all.
-/

set_option autoImplicit false

namespace SchemaOutline.Text

inductive NumeralFault where
  | malformed
  | tooLong
deriving Repr, DecidableEq

def underscoresStandAlone (cs : List Char) : Bool :=
  (cs.zip (cs.drop 1)).all fun (a, b) => !(a == '_' && b == '_')

def withoutUnderscores (cs : List Char) : List Char :=
  if underscoresStandAlone cs && cs.head? != some '_' && cs.getLast? != some '_' then
    cs.filter (· != '_')
  else cs

def digitsNumber (cs : List Char) : Nat := cs.foldl (fun n d => n * 10 + (d.toNat - '0'.toNat)) 0

/-! ## Integers -/

/-- Without a plus sign, which no minus sign may follow. -/
def withoutPlus? : List Char → Option (List Char)
  | '+' :: '-' :: _ => none
  | '+' :: rest => some rest
  | cs => some cs

/-- Without zeros in front of another digit or a minus sign, and without underscores among these
zeros. One character is kept where nothing but zeros stands before a point or the end. -/
def withoutLeadingZeros? (cs : List Char) : Option (List Char) :=
  match cs with
  | '0' :: _ =>
    let zeros := cs.takeWhile fun c => c == '0' || c == '_'
    let kept := zeros.getLast?.toList
    match cs.drop zeros.length with
    | [] => some kept
    | '.' :: rest => some (kept ++ '.' :: rest)
    | c :: rest => if c.isDigit || c == '-' then some (c :: rest) else none
  | c :: _ => if c.isDigit || c == '-' then some cs else none
  | [] => none

def withoutZeroPlaces (cs : List Char) : List Char :=
  let whole := cs.takeWhile (· != '.')
  match cs.drop whole.length with
  | '.' :: places => if !places.isEmpty && places.all (· == '0') then whole else cs
  | _ => cs

def plainDigits? (cs : List Char) : Option (List Char) :=
  (withoutLeadingZeros? cs).map fun cs => withoutUnderscores (withoutZeroPlaces cs)

/-- The integer in its plain form; a sign in front is no part of what is made plain. -/
def plainInteger? (cs : List Char) : Option (List Char) :=
  match withoutPlus? cs with
  | some ('-' :: rest) => (plainDigits? rest).map ('-' :: ·)
  | some cs => plainDigits? cs
  | none => none

/-- The integer of a sign and digits. A zero may not stand in front of another digit, and the digits
must not be too many. -/
def signedDigits (cs : List Char) : Except NumeralFault Int :=
  let (negative, digits) :=
    match cs with
    | '-' :: rest => (true, rest)
    | _ => (false, cs)
  let padded := digits.head? == some '0' && 1 < digits.length
  if digits.isEmpty || padded || !digits.all Char.isDigit then .error .malformed
  else if digitLimit < digits.length then .error .tooLong
  else
    let n : Int := digitsNumber digits
    .ok (if negative then -n else n)

def integer (s : String) : Except NumeralFault Int :=
  match plainInteger? (trim isBlank s.toList) with
  | some cs => signedDigits cs
  | none => .error .malformed

/-! ## Real numbers -/

def signed (cs : List Char) : Bool × List Char :=
  match cs with
  | '-' :: rest => (true, rest)
  | '+' :: rest => (false, rest)
  | _ => (false, cs)

def exponent? (cs : List Char) : Option Int :=
  match cs with
  | [] => some 0
  | mark :: rest =>
    let (negative, digits) := signed rest
    if (mark == 'e' || mark == 'E') && !digits.isEmpty && digits.all Char.isDigit then
      let n : Int := digitsNumber digits
      some (if negative then -n else n)
    else none

/-- The number of digits, a point, digits and an exponent, where either group of digits may be
missing. -/
def decimal? (negative : Bool) (cs : List Char) : Option Float :=
  let whole := cs.takeWhile Char.isDigit
  let (places, rest) :=
    match cs.drop whole.length with
    | '.' :: rest =>
      let places := rest.takeWhile Char.isDigit
      (places, rest.drop places.length)
    | rest => ([], rest)
  if whole.isEmpty && places.isEmpty then none
  else
    (exponent? rest).map fun exponent =>
      Binary64.ofDecimal negative (digitsNumber (whole ++ places)) (exponent - places.length)

def plainReal? (cs : List Char) : Option Float :=
  let (negative, unsigned) := signed cs
  match String.ofList (unsigned.map Char.toLower) with
  | "inf" | "infinity" => some (if negative then -(1.0 / 0.0) else 1.0 / 0.0)
  | "nan" => some (0.0 / 0.0)
  | _ => decimal? negative unsigned

/-- The real number that a text spells. Blanks around it and underscores in it are taken away, but
not both. -/
def real? (s : String) : Option Float :=
  match plainReal? (trim isBlank s.toList) with
  | some x => some x
  | none => plainReal? (withoutUnderscores s.toList)

end SchemaOutline.Text
