import Disclosure.Text.Blank
import Disclosure.Text.Numeral

/-!
# Timestamps

Points in time as RFC 3339 writes them, read with some tolerance for blanks and
short numbers and written in universal time with as few fraction digits as hold
the fraction: none, three, six or nine.  A leap second is kept.
-/

namespace Disclosure.Text

/-- A point in universal time. -/
structure Timestamp where
  /-- Days since the first of March of year zero. -/
  day : Int
  /-- Seconds since midnight. -/
  second : Nat
  /-- Nanoseconds; from a thousand million on they belong to a leap second. -/
  nano : Nat
  deriving DecidableEq, Repr

/-- A date of the Gregorian calendar. -/
structure Date where
  year : Int
  month : Nat
  day : Nat
  deriving DecidableEq, Repr

namespace Date

def isLeap (year : Int) : Bool :=
  year % 4 == 0 && (year % 100 != 0 || year % 400 == 0)

def daysIn (year : Int) (month : Nat) : Nat :=
  if month = 2 then if isLeap year then 29 else 28
  else if month = 4 ∨ month = 6 ∨ month = 9 ∨ month = 11 then 30
  else 31

/-- The years that a date may lie in. -/
def inRange (year : Int) : Bool := -262143 ≤ year && year ≤ 262142

def isValid (date : Date) : Bool :=
  inRange date.year && 1 ≤ date.month && date.month ≤ 12
    && 1 ≤ date.day && date.day ≤ daysIn date.year date.month

/-- Days since the first of March of year zero. -/
def toDay (date : Date) : Int :=
  let year := if date.month ≤ 2 then date.year - 1 else date.year
  let month := (date.month + 9) % 12
  365 * year + year / 4 - year / 100 + year / 400
    + ((153 * month + 2) / 5 + date.day - 1 : Nat)

/-- The date so many days after the first of March of year zero. -/
def ofDay (days : Int) : Date :=
  let era := days / 146097
  let rest := (days - era * 146097).toNat
  let years := (rest - rest / 1460 + rest / 36524 - rest / 146096) / 365
  let inYear := rest - (365 * years + years / 4 - years / 100)
  let month := (5 * inYear + 2) / 153
  let year := era * 400 + years
  { year := if month < 10 then year else year + 1
    month := if month < 10 then month + 3 else month - 9
    day := inYear - (153 * month + 2) / 5 + 1 }

end Date

namespace Timestamp

/-! ## Reading -/

/-- Digits at the start, at most so many, and the rest; there must be one. -/
def digits (most : Nat) (chars : List Char) : Option (Nat × List Char) := do
  let shown := (chars.take most).takeWhile Char.isDigit
  if shown.isEmpty then none
  else return (← readDigits 0 shown, chars.drop shown.length)

/-- A number of at most two digits, after blanks. -/
def twoDigits (chars : List Char) : Option (Nat × List Char) :=
  digits 2 (dropBlanks chars)

/-- A year, after blanks; one with a sign may have any number of digits. -/
def year (chars : List Char) : Option (Int × List Char) :=
  match dropBlanks chars with
  | '-' :: rest =>
    (digits rest.length rest).map fun (value, rest) => (-(value : Int), rest)
  | '+' :: rest =>
    (digits rest.length rest).map fun (value, rest) => ((value : Int), rest)
  | rest => (digits 4 rest).map fun (value, rest) => ((value : Int), rest)

/-- A mark, after blanks. -/
def mark (expected : Char) (chars : List Char) : Option (List Char) :=
  match dropBlanks chars with
  | char :: rest => if char = expected then some rest else none
  | [] => none

/-- A fraction in nanoseconds, if there is one; digits after the ninth are
dropped. -/
def fraction : List Char → Option (Nat × List Char)
  | '.' :: rest => do
    let (value, after) ← digits 9 rest
    let shown := rest.length - after.length
    return (value * Nat.pow 10 (9 - shown), after.dropWhile Char.isDigit)
  | rest => some (0, rest)

/-- The distance from universal time in seconds. -/
def offset (chars : List Char) : Option (Int × List Char) :=
  match chars with
  | 'Z' :: rest => some (0, rest)
  | 'z' :: rest => some (0, rest)
  | sign :: h1 :: h2 :: rest => do
    if ([sign, h1, h2].map Char.toUpper) = ['U', 'T', 'C'] then
      return (0, rest)
    let hours := 10 * (← digit? h1) + (← digit? h2)
    match rest.dropWhile fun char => char = ':' || isBlank char with
    | m1 :: m2 :: rest =>
      let minutes := 10 * (← digit? m1) + (← digit? m2)
      let size := hours * 3600 + minutes * 60
      if 60 ≤ minutes ∨ 86400 ≤ size then none
      else if sign = '+' then return ((size : Int), rest)
      else if sign = '-' ∨ sign = '\u2212' then return (-(size : Int), rest)
      else none
    | _ => none
  | _ => none

/-- The end of a date: the letter T or a blank. -/
def divider : List Char → Option (List Char)
  | 'T' :: rest => some rest
  | 't' :: rest => some rest
  | ' ' :: rest => some rest
  | _ => none

def parse? (text : String) : Option Timestamp := do
  let (year, rest) ← year text.toList
  let (month, rest) ← twoDigits (← mark '-' rest)
  let (day, rest) ← twoDigits (← mark '-' rest)
  let (hour, rest) ← twoDigits (← divider rest)
  let (minute, rest) ← twoDigits (← mark ':' rest)
  let (second, rest) ← twoDigits (← mark ':' rest)
  let (nano, rest) ← fraction rest
  let (away, rest) ← offset (dropBlanks rest)
  let date : Date := ⟨year, month, day⟩
  let fits := date.isValid && hour < 24 && minute < 60 && second ≤ 60
    && (dropBlanks rest).isEmpty
  if fits then
    let leap := second = 60
    let seconds : Int := date.toDay * 86400
      + (3600 * hour + 60 * minute + if leap then 59 else second : Nat) - away
    let day := seconds / 86400
    if Date.inRange (Date.ofDay day).year then
      return {
        day := day
        second := (seconds % 86400).toNat
        nano := if leap then nano + 1000000000 else nano }
    else none
  else none

/-! ## Writing -/

/-- A year with four digits, and a sign where these are not enough. -/
def yearText (year : Int) : String :=
  let shown := decimalPadded 4 year.natAbs
  if year < 0 then "-" ++ shown
  else if 9999 < year then "+" ++ shown
  else shown

/-- The fewest of 3, 6 and 9 digits that hold a fraction, none for zero. -/
def fractionText (nano : Nat) : String :=
  if nano = 0 then ""
  else if nano % 1000000 = 0 then "." ++ decimalPadded 3 (nano / 1000000)
  else if nano % 1000 = 0 then "." ++ decimalPadded 6 (nano / 1000)
  else "." ++ decimalPadded 9 nano

/-- The written form in universal time. -/
def render (time : Timestamp) : String :=
  let date := Date.ofDay time.day
  let leap := 1000000000 ≤ time.nano
  let second := time.second % 60 + if leap then 1 else 0
  let nano := if leap then time.nano - 1000000000 else time.nano
  yearText date.year ++ "-" ++ decimalPadded 2 date.month ++ "-"
    ++ decimalPadded 2 date.day ++ "T"
    ++ decimalPadded 2 (time.second / 3600) ++ ":"
    ++ decimalPadded 2 (time.second / 60 % 60) ++ ":"
    ++ decimalPadded 2 second ++ fractionText nano ++ "Z"

end Timestamp

end Disclosure.Text
