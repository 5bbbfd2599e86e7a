import SchemaOutline.Checked
import SchemaOutline.Text.Numeral

/-!
# Lenient scalars

Integers and truth values are also taken from texts and from each other, as long as nothing is
lost: `" +007 "` and `2.0` are integers, `"off"` and `0` are truth values, and `2.5` is neither.
-/

set_option autoImplicit false

namespace SchemaOutline.Checked

def integerOfText (s : String) : Checked Int :=
  match Text.integer s with
  | .ok n => accepted n
  | .error .malformed => fail .unreadableInteger
  | .error .tooLong => fail .integerTooLong

/-- The integer that a double is, if it is less than `2 ^ 63` in size. -/
def integerOfFloat (x : Float) : Checked Int :=
  if (Binary64.ofFloat? x).isNone then fail .notFinite
  else
    match wholeNumber? x with
    | some n => if n.natAbs < Binary64.signBit then accepted n else fail .fractional
    | none => fail .fractional

def integer : Json → Checked Int
  | .int n => accepted n
  | .bool b => accepted b.toNat
  | .float x => integerOfFloat x
  | .str s => integerOfText s
  | _ => fail .notInteger

def integerFrom (minimum : Int) (v : Json) : Checked Int :=
  match integer v with
  | accepted n => if n < minimum then fail .belowMinimum else accepted n
  | rejected faults => rejected faults

def truthOfText (s : String) : Checked Bool :=
  let word := s.toLower
  if ["1", "on", "t", "true", "y", "yes"].contains word then accepted true
  else if ["0", "off", "f", "false", "n", "no"].contains word then accepted false
  else fail .unreadableTruthValue

def truthOfInteger (n : Int) : Checked Bool :=
  if n == 1 then accepted true
  else if n == 0 then accepted false
  else fail .unreadableTruthValue

/-- A truth value, taken leniently. Numbers beyond 64 bits do not count as numbers here. -/
def truth : Json → Checked Bool
  | .bool b => accepted b
  | .int n =>
    if n < Binary64.signBit && -n ≤ Binary64.signBit then truthOfInteger n
    else fail .notTruthValue
  | .float x =>
    match integerOfFloat x with
    | accepted n => truthOfInteger n
    | rejected _ => fail .notTruthValue
  | .str s => truthOfText s
  | _ => fail .notTruthValue

end SchemaOutline.Checked
