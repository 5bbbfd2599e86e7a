import SchemaOutline.Binary64

/-!
# The shortest decimal that reads back

A double stands for every real number that rounds to it. Among the decimals in that interval the
library writes one with the fewest digits, and of those the one nearest to the double. The search
goes through grids of one, two, three and more digits: if a grid has a point in the interval then
one of the two grid points next to the double is such a point, so looking at those two is enough.
-/

set_option autoImplicit false

namespace SchemaOutline.Decimal

structure Scaled where
  digits : Nat
  exponent : Int
deriving Repr, DecidableEq

structure Ratio where
  num : Nat
  den : Nat

def Ratio.ofDyadic (n : Nat) (e : Int) : Ratio :=
  if 0 ≤ e then ⟨n * Nat.pow 2 e.toNat, 1⟩ else ⟨n, Nat.pow 2 (-e).toNat⟩

def Ratio.ofScaled (s : Scaled) : Ratio :=
  if 0 ≤ s.exponent then ⟨s.digits * Nat.pow 10 s.exponent.toNat, 1⟩
  else ⟨s.digits, Nat.pow 10 (-s.exponent).toNat⟩

def Ratio.le (a b : Ratio) : Bool := a.num * b.den ≤ b.num * a.den

def Ratio.lt (a b : Ratio) : Bool := a.num * b.den < b.num * a.den

/-- The greatest multiple of `10 ^ e` that does not exceed the rational, counted in that unit. -/
def Ratio.floorAt (r : Ratio) (e : Int) : Nat :=
  if 0 ≤ e then r.num / (r.den * Nat.pow 10 e.toNat) else r.num * Nat.pow 10 (-e).toNat / r.den

def Ratio.magnitude (r : Ratio) : Int :=
  if r.den ≤ r.num then ((Nat.toDigits 10 (r.num / r.den)).length : Int) - 1
  else
    match (List.range 400).find? fun k => decide (r.den ≤ r.num * Nat.pow 10 k) with
    | some k => -(k : Int)
    | none => -400

structure Interval where
  low : Ratio
  value : Ratio
  high : Ratio
  closed : Bool

/-- Half a unit lies on either side, and only a quarter below a power of two; the ends round to the
double exactly when its mantissa is even. -/
def Interval.ofBinary (b : Binary64) : Interval :=
  let below := if b.mantissa == Binary64.leastNormal && b.exponent != -1074 then 1 else 2
  let quarters (n : Nat) := Ratio.ofDyadic n (b.exponent - 2)
  { low := quarters (4 * b.mantissa - below)
    value := quarters (4 * b.mantissa)
    high := quarters (4 * b.mantissa + 2)
    closed := b.mantissa % 2 == 0 }

def Interval.contains (i : Interval) (r : Ratio) : Bool :=
  if i.closed then i.low.le r && r.le i.high else i.low.lt r && r.lt i.high

/-- Whether the lower of two neighbours on a grid is the nearer one; a tie goes to the even one. -/
def Interval.prefersLower (i : Interval) (lower : Nat) (exponent : Int) : Bool :=
  let middle := Ratio.ofScaled ⟨10 * lower + 5, exponent - 1⟩
  i.value.lt middle || (i.value.le middle && lower % 2 == 0)

def Interval.onGrid? (i : Interval) (count : Nat) : Option Scaled :=
  let exponent := i.value.magnitude - count + 1
  let lower := i.value.floorAt exponent
  let hitsLower := i.contains (.ofScaled ⟨lower, exponent⟩)
  let hitsUpper := i.contains (.ofScaled ⟨lower + 1, exponent⟩)
  if hitsLower && (!hitsUpper || i.prefersLower lower exponent) then some ⟨lower, exponent⟩
  else if hitsUpper then some ⟨lower + 1, exponent⟩
  else none

/-- The shortest decimal of a nonzero double; seventeen digits always suffice. -/
def shortest (b : Binary64) : Scaled :=
  let i := Interval.ofBinary b
  ((List.range 17).findSome? fun n => i.onGrid? (n + 1)).getD ⟨0, 0⟩

end SchemaOutline.Decimal
