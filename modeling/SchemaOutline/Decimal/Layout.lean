import SchemaOutline.Decimal.Shortest

/-!
# Decimal text of doubles

The digits come from `Decimal.shortest`. Where the point goes and when an exponent is written are
decisions of the format, collected in one record.
-/

set_option autoImplicit false

namespace SchemaOutline.Decimal

structure Layout where
  /-- Leading digits with an exponent from here on are written with an exponent part. -/
  firstLarge : Int
  /-- Leading digits with an exponent below this are written with an exponent part. -/
  firstPositional : Int
  exponentDigits : Nat
  notANumber : String
  infinity : String

/-- Numbers below `10 ^ 16` and from `10 ^ -4` on are positional and always show a point; exponents
have a sign and two digits. -/
def standard : Layout where
  firstLarge := 16
  firstPositional := -4
  exponentDigits := 2
  notANumber := "NaN"
  infinity := "Infinity"

def zeros (n : Nat) : List Char := List.replicate n '0'

def positional (digits : List Char) (leading : Int) : List Char :=
  if leading < 0 then
    '0' :: '.' :: zeros (-leading - 1).toNat ++ digits
  else
    let whole := leading.toNat + 1
    if digits.length ≤ whole then digits ++ zeros (whole - digits.length) ++ ['.', '0']
    else digits.take whole ++ '.' :: digits.drop whole

def exponential (layout : Layout) (digits : List Char) (leading : Int) : List Char :=
  let power := Nat.toDigits 10 leading.natAbs
  let mantissa :=
    match digits with
    | [] => []
    | [d] => [d]
    | d :: rest => d :: '.' :: rest
  mantissa ++ 'e' :: (if leading < 0 then '-' else '+')
    :: zeros (layout.exponentDigits - power.length) ++ power

def Layout.ofScaled (layout : Layout) (s : Scaled) : List Char :=
  let written := Nat.toDigits 10 s.digits
  let leading := s.exponent + written.length - 1
  let digits := (written.reverse.dropWhile (· == '0')).reverse
  if layout.firstPositional ≤ leading && leading < layout.firstLarge then positional digits leading
  else exponential layout digits leading

/-- The text of a double: the shortest decimal that reads back to it. -/
def Layout.format (layout : Layout) (x : Float) : String :=
  match Binary64.ofFloat? x with
  | none =>
    if x.isNaN then layout.notANumber
    else if x < 0.0 then "-" ++ layout.infinity else layout.infinity
  | some b =>
    let magnitude := if b.mantissa == 0 then ['0', '.', '0'] else layout.ofScaled (shortest b)
    String.ofList (if b.negative then '-' :: magnitude else magnitude)

end SchemaOutline.Decimal
