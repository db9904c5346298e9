import Offside.Decimal.Binary64
import Offside.Toml.Text

/-!
# Numbers of TOML

Whole numbers of 64 bits with a sign, in four bases, and floating point numbers. Single
underscores may stand between digits.
-/

namespace Offside.Toml

open Reader

/-- Digits of a class, with single underscores between them. -/
def digitRun (isDigit : Char → Bool) : Reader (List Char) := do
  let first ← satisfy isDigit
  let more ← many (do discard (optional? (char '_')); satisfy isDigit)
  return first :: more

/-- Decimal digits that do not start with a zero, unless there is only one. -/
def decimalDigits : Reader (List Char) := do
  let digits ← digitRun Char.isDigit
  require (digits.head? != some '0' || digits.length == 1)
  return digits

/-- A sign; `true` for minus. -/
def sign : Reader Bool :=
  (do char '-'; return true) <|> (do char '+'; return false) <|> pure false

def ofDigits (base : Nat) (digits : List Char) : Nat :=
  digits.foldl (fun n c => base * n + charOfHex.hexDigit c) 0

def fits (n : Int) : Bool :=
  -(Nat.pow 2 63 : Nat) ≤ n && n < (Nat.pow 2 63 : Nat)

/-- A whole number in base two, eight or sixteen, which has no sign. -/
def basedInt (mark : String) (base : Nat) (isDigit : Char → Bool) : Reader Int := do
  word mark
  let digits ← digitRun isDigit
  return ofDigits base digits

def wholeNumber : Reader Int := do
  let n ←
    basedInt "0x" 16 isHexDigit <|> basedInt "0o" 8 (fun c => '0' ≤ c && c ≤ '7') <|>
      basedInt "0b" 2 (fun c => c == '0' || c == '1') <|> do
        let negative ← sign
        let magnitude : Int := ofDigits 10 (← decimalDigits)
        return if negative then -magnitude else magnitude
  require (fits n)
  return n

def exponentPart : Reader Int := do
  discard (satisfy fun c => c == 'e' || c == 'E')
  let negative ← sign
  let magnitude : Int := ofDigits 10 (← digitRun Char.isDigit)
  return if negative then -magnitude else magnitude

/-- A floating point number in digits: it has a point with digits behind it, or an exponent, or
both. One too great for a finite value is refused, unless it is negative. -/
def decimalFloat : Reader Binary64 := do
  let negative ← sign
  let whole ← decimalDigits
  let fraction? ← optional? (do char '.'; digitRun Char.isDigit)
  let exponent? ← optional? exponentPart
  require (fraction?.isSome || exponent?.isSome)
  let fraction := fraction?.getD []
  let value := Binary64.ofDecimal negative (ofDigits 10 (whole ++ fraction))
    (exponent?.getD 0 - fraction.length)
  require (value != .infinite false)
  return value

def specialFloat : Reader Binary64 := do
  let negative ← sign
  (do word "inf"; return .infinite negative) <|> (do word "nan"; return .nan)

def floatNumber : Reader Binary64 :=
  decimalFloat <|> specialFloat

end Offside.Toml
