/-!
# Binary floating point, exactly

A finite double is `mantissa · 2 ^ exponent` with a sign. Everything the library says about doubles,
their shortest decimal text as well as their comparison with integers, starts from that exact form.
-/

set_option autoImplicit false

namespace SchemaOutline

/-- The exact value of a finite double: `± mantissa · 2 ^ exponent`. -/
structure Binary64 where
  negative : Bool
  mantissa : Nat
  exponent : Int
deriving Repr, DecidableEq

namespace Binary64

def leastNormal : Nat := Nat.pow 2 52

def signBit : Nat := Nat.pow 2 63

/-- The bits of the positive infinity; the doubles below it have lesser bits. -/
def infinityBits : Nat := 2047 * leastNormal

def ofFloat? (x : Float) : Option Binary64 :=
  let bits := x.toBits.toNat
  let fraction := bits % leastNormal
  let biased : Nat := bits / leastNormal % Nat.pow 2 11
  let negative := bits / signBit == 1
  if biased == 2047 then none
  else if biased == 0 then some ⟨negative, fraction, -1074⟩
  else some ⟨negative, fraction + leastNormal, (biased : Int) - 1075⟩

def integer? (b : Binary64) : Option Int :=
  let magnitude? : Option Nat :=
    if 0 ≤ b.exponent then some (b.mantissa * Nat.pow 2 b.exponent.toNat)
    else
      let unit := Nat.pow 2 (-b.exponent).toNat
      if b.mantissa % unit == 0 then some (b.mantissa / unit) else none
  magnitude?.map fun n => if b.negative then -(n : Int) else n

/-- The bits of the double nearest to the positive rational `num / den`: 52 bits below the leading
one, fewer for subnormals, a tie to the even neighbour, an infinity beyond the range. -/
def nearestBits (num den : Nat) : Nat :=
  let guess : Int := (num.log2 : Int) - den.log2 - 52
  let quotient (e : Int) : Nat :=
    if 0 ≤ e then num / (den * Nat.pow 2 e.toNat) else num * Nat.pow 2 (-e).toNat / den
  let exponent := max (if quotient guess < leastNormal then guess - 1 else guess) (-1074)
  let floor := quotient exponent
  let top := num * Nat.pow 2 (-exponent).toNat
  let bottom := den * Nat.pow 2 exponent.toNat
  let rest := 2 * (top - floor * bottom)
  let mantissa := if rest > bottom || (rest == bottom && floor % 2 == 1) then floor + 1 else floor
  let bits :=
    if mantissa < leastNormal then mantissa
    else (exponent + 1074).toNat * leastNormal + mantissa
  min bits infinityBits

def ofDecimal (negative : Bool) (digits : Nat) (exponent : Int) : Float :=
  let leading := exponent + (Nat.toDigits 10 digits).length
  let magnitude :=
    if digits == 0 || leading < -400 then 0
    else if 400 < leading then infinityBits
    else if 0 ≤ exponent then nearestBits (digits * Nat.pow 10 exponent.toNat) 1
    else nearestBits digits (Nat.pow 10 (-exponent).toNat)
  Float.ofBits (.ofNat (magnitude + if negative then signBit else 0))

end Binary64

def wholeNumber? (x : Float) : Option Int :=
  (Binary64.ofFloat? x).bind Binary64.integer?

end SchemaOutline
