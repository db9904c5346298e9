import Offside.Decimal.Binary64

/-!
# Shortest decimals

A floating point number is written with the fewest digits that read back as it; of the decimals
with that many digits, the nearest is taken.
-/

namespace Offside

/-- A decimal number: the digits, and the power of ten of the last one. -/
structure Decimal where
  digits : Nat
  power : Int
deriving DecidableEq, Repr

namespace Decimal

def normalize (decimal : Decimal) : Decimal :=
  if _ : 0 < decimal.digits ∧ decimal.digits % 10 = 0 then
    normalize ⟨decimal.digits / 10, decimal.power + 1⟩
  else decimal
termination_by decimal.digits
decreasing_by omega

/-- Writes the digits in place, with at least one of them behind the point. -/
def positional (decimal : Decimal) : String :=
  let digits := Nat.toDigits 10 decimal.digits
  let zeros (n : Int) := List.replicate n.toNat '0'
  let place := digits.length + decimal.power
  String.ofList <|
    if 0 ≤ decimal.power then digits ++ zeros decimal.power ++ ['.', '0']
    else if 0 < place then digits.take place.toNat ++ '.' :: digits.drop place.toNat
    else '0' :: '.' :: (zeros (-place) ++ digits)

end Decimal

/-- A positive number between the two borders of the numbers that round to it. All three are
multiples of one fraction. -/
structure Neighbourhood where
  low : Nat
  value : Nat
  high : Nat
  denominator : Nat
  closed : Bool

namespace Neighbourhood

/-- The neighbourhood of `mantissa * 2 ^ exponent`. Below a power of two the next number is only
half as far away. -/
def ofBinary (mantissa : Nat) (exponent : Int) : Neighbourhood :=
  let unit := Nat.pow 2 (exponent - 2).toNat
  let below := if mantissa = Nat.pow 2 52 ∧ -1074 < exponent then 1 else 2
  { low := (4 * mantissa - below) * unit
    value := 4 * mantissa * unit
    high := (4 * mantissa + 2) * unit
    denominator := Nat.pow 2 (2 - exponent).toNat
    closed := mantissa % 2 == 0 }

/-- The numerator and the denominator of the value in units of a power of ten. -/
def inUnits (n : Neighbourhood) (power : Int) : Nat × Nat :=
  (n.value * Nat.pow 10 (-power).toNat, n.denominator * Nat.pow 10 power.toNat)

/-- The number of digits before the point; at or below zero it counts the zeros behind it. -/
def decimalOrder (n : Neighbourhood) : Int :=
  let estimate : Int := (digitCount n.value : Int) - digitCount n.denominator
  let (value, unit) := n.inUnits estimate
  if value < unit then estimate else estimate + 1

def holds (n : Neighbourhood) (decimal : Decimal) : Bool :=
  let point := decimal.digits * Nat.pow 10 decimal.power.toNat * n.denominator
  let low := n.low * Nat.pow 10 (-decimal.power).toNat
  let high := n.high * Nat.pow 10 (-decimal.power).toNat
  if n.closed then low ≤ point && point ≤ high else low < point && point < high

/-- The decimal with the given number of digits that reads back as the number and is nearest to
it; of two as near, the greater. -/
def nearest? (n : Neighbourhood) (count : Nat) : Option Decimal :=
  let power := n.decimalOrder - count
  let (value, unit) := n.inUnits power
  let below : Decimal := ⟨value / unit, power⟩
  let above : Decimal := ⟨value / unit + 1, power⟩
  if n.holds below && (2 * (value % unit) < unit || !n.holds above) then some below
  else if n.holds above then some above
  else none

/-- The shortest decimal that reads back as the number; seventeen digits always do. -/
def shortest (n : Neighbourhood) : Decimal :=
  ((List.range 17).findSome? fun i => n.nearest? (i + 1)).getD ⟨0, 0⟩

end Neighbourhood

namespace Binary64

/-- The number in the fewest digits that read back, written in place. -/
def render : Binary64 → String
  | .nan => "NaN"
  | .infinite negative => if negative then "-inf" else "inf"
  | .finite negative mantissa exponent =>
    let magnitude :=
      if mantissa = 0 then "0.0"
      else (Neighbourhood.ofBinary mantissa exponent).shortest.normalize.positional
    if negative then "-" ++ magnitude else magnitude

end Binary64

end Offside
