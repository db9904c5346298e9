/-!
# Binary floating point numbers of 64 bits

A number is kept as the exact value it stands for, so that reading a decimal is a rounding of
fractions of natural numbers.
-/

namespace Offside

/-- A floating point number with 53 bits of mantissa. -/
inductive Binary64 where
  | nan
  | infinite (negative : Bool)
  /-- The number `mantissa * 2 ^ exponent` with a sign; the exponent is at least -1074, and the
  mantissa has 53 bits unless the exponent is -1074. -/
  | finite (negative : Bool) (mantissa : Nat) (exponent : Int)
deriving DecidableEq, Repr

/-- The quotient rounded to the nearest natural number; a half goes to the even neighbour. -/
def roundDiv (numerator denominator : Nat) : Nat :=
  let quotient := numerator / denominator
  let rest := 2 * (numerator % denominator)
  if rest < denominator || (rest == denominator && quotient % 2 == 0) then quotient
  else quotient + 1

def digitCount (n : Nat) : Nat :=
  (Nat.toDigits 10 n).length

namespace Binary64

def zero (negative : Bool) : Binary64 :=
  .finite negative 0 (-1074)

def isZero : Binary64 → Bool
  | .finite _ 0 _ => true
  | _ => false

/-- The exponent of the power of two just below or at a positive fraction. -/
def binaryOrder (numerator denominator : Nat) : Int :=
  let estimate : Int := (numerator.log2 : Int) - denominator.log2
  if numerator * Nat.pow 2 (-estimate).toNat < denominator * Nat.pow 2 estimate.toNat then
    estimate - 1
  else estimate

/-- The number nearest to a fraction; of two, the one with an even mantissa. -/
def ofFraction (negative : Bool) (numerator denominator : Nat) : Binary64 :=
  if numerator = 0 then zero negative
  else
    let exponent := max (-1074) (binaryOrder numerator denominator - 52)
    let mantissa := roundDiv (numerator * Nat.pow 2 (-exponent).toNat)
      (denominator * Nat.pow 2 exponent.toNat)
    -- rounding may have carried into a 54th bit
    let (mantissa, exponent) :=
      if mantissa = Nat.pow 2 53 then (Nat.pow 2 52, exponent + 1) else (mantissa, exponent)
    if 971 < exponent then .infinite negative else .finite negative mantissa exponent

/-- The number nearest to `digits * 10 ^ exponent`. -/
def ofDecimal (negative : Bool) (digits : Nat) (exponent : Int) : Binary64 :=
  let order := digitCount digits + exponent
  if digits = 0 || order < -330 then zero negative
  else if 310 < order then .infinite negative
  else ofFraction negative (digits * Nat.pow 10 exponent.toNat) (Nat.pow 10 (-exponent).toNat)

end Binary64

end Offside
