import Offside.Toml.Number

/-!
# Dates and times of TOML

A date, a time of the day, or both, and with both perhaps the distance from universal time. The
written form is a normal form: the time with up to nine places of a second and no zero at their
end.
-/

namespace Offside.Toml

open Reader

/-- A day of the calendar. -/
structure Date where
  year : Nat
  month : Nat
  day : Nat
deriving DecidableEq, Repr

/-- A time of the day. -/
structure Time where
  hour : Nat
  minute : Nat
  second : Nat
  /-- The places of the second, without zeros at their end. -/
  places : List Char
deriving DecidableEq, Repr

/-- How a local time stands to universal time. -/
inductive Offset where
  | universal
  | minutes (count : Int)
deriving DecidableEq, Repr

/-- A date, a time, or both. -/
inductive Moment where
  | date (d : Date)
  | time (t : Time)
  | both (d : Date) (t : Time) (offset? : Option Offset)
deriving DecidableEq, Repr

def daysOfMonth (year month : Nat) : Nat :=
  if month == 2 then
    if year % 4 == 0 && (year % 100 != 0 || year % 400 == 0) then 29 else 28
  else if month == 4 || month == 6 || month == 9 || month == 11 then 30
  else 31

/-- A number with zeros in front, up to the given width. -/
def padded (width n : Nat) : String :=
  let digits := Nat.toDigits 10 n
  String.ofList (List.replicate (width - digits.length) '0' ++ digits)

def Date.render (date : Date) : String :=
  padded 4 date.year ++ "-" ++ padded 2 date.month ++ "-" ++ padded 2 date.day

def Time.render (time : Time) : String :=
  let clock := padded 2 time.hour ++ ":" ++ padded 2 time.minute ++ ":" ++ padded 2 time.second
  if time.places.isEmpty then clock else clock ++ "." ++ String.ofList time.places

def Offset.render : Offset → String
  | .universal => "Z"
  | .minutes count =>
    let magnitude := count.natAbs
    (if count < 0 then "-" else "+") ++ padded 2 (magnitude / 60) ++ ":" ++ padded 2 (magnitude % 60)

def Moment.render : Moment → String
  | .date d => d.render
  | .time t => t.render
  | .both d t offset? => d.render ++ "T" ++ t.render ++ ((offset?.map Offset.render).getD "")

/-- A number of exactly `count` digits, at least `low` and at most `high`. -/
def field (count low high : Nat) : Reader Nat := do
  let n := ofDigits 10 (← exactly count Char.isDigit)
  require (low ≤ n && n ≤ high)
  return n

def readDate : Reader Date := do
  let year ← field 4 0 9999
  char '-'
  let month ← field 2 1 12
  char '-'
  let day ← field 2 1 (daysOfMonth year month)
  return { year, month, day }

/-- The places of a second; those behind the ninth are dropped. -/
def readPlaces : Reader (List Char) := do
  char '.'
  let digits ← run1 Char.isDigit
  return ((digits.take 9).reverse.dropWhile (· == '0')).reverse

/-- A time of the day; a leap second is one. -/
def readTime : Reader Time := do
  let hour ← field 2 0 23
  char ':'
  let minute ← field 2 0 59
  char ':'
  let second ← field 2 0 60
  let places? ← optional? readPlaces
  return { hour, minute, second, places := places?.getD [] }

/-- The distance from universal time, which is less than a day. -/
def readOffset : Reader Offset :=
  (do discard (satisfy fun c => c == 'Z' || c == 'z'); return .universal) <|> do
    let sign ← satisfy fun c => c == '+' || c == '-'
    let hours ← field 2 0 23
    char ':'
    let minutes ← field 2 0 59
    let count : Int := (60 * hours + minutes : Nat)
    return .minutes (if sign == '-' then -count else count)

def readMoment : Reader Moment :=
  (do
    let date ← readDate
    let both? ← optional? do
      discard (satisfy fun c => c == 'T' || c == 't' || c == ' ')
      let time ← readTime
      let offset? ← optional? readOffset
      return Moment.both date time offset?
    return both?.getD (.date date)) <|>
  (do return .time (← readTime))

def Moment.ofText? (text : String) : Option Moment :=
  whole? readMoment text.toList

end Offside.Toml
