import Disclosure.Text.Numeral

/-!
# Doubles in decimal

The shortest decimal numeral that reads back as a given double, found on exact
integers: a double is a numerator and a power of two, and so are the two ends of
the interval of reals that round to it.  The grids of 1, 2, … 17 digits are
tried in turn; on each grid only the two neighbours of the value matter.
-/

namespace Disclosure.Decimal

/-- Reals that round to a double, over one common denominator. -/
structure Rounding where
  low : Nat
  value : Nat
  high : Nat
  denominator : Nat
  /-- Whether the two ends round to the double as well. -/
  closed : Bool

namespace Rounding

/-- The interval of `digits * 2 ^ exponent`; beneath a power of two it is half
as wide when the doubles there are twice as dense. -/
def ofBinary (digits : Nat) (exponent : Int) (dense : Bool) : Rounding :=
  let shift := exponent - 2
  let scale := Nat.pow 2 shift.toNat
  { low := (4 * digits - if dense then 1 else 2) * scale
    value := 4 * digits * scale
    high := (4 * digits + 2) * scale
    denominator := Nat.pow 2 (-shift).toNat
    closed := digits % 2 = 0 }

/-- Whether a multiple of the denominator's inverse rounds to the double. -/
def contains (rounding : Rounding) (point : Nat) : Bool :=
  if rounding.closed then rounding.low ≤ point && point ≤ rounding.high
  else rounding.low < point && point < rounding.high

/-- The same interval with the unit of length divided by `factor`. -/
def scale (factor : Nat) (rounding : Rounding) : Rounding :=
  { rounding with
    low := rounding.low * factor
    value := rounding.value * factor
    high := rounding.high * factor }

/-- The nearer neighbour of the value on the grid of step `10 ^ exponent`, if
one of them rounds to the double. -/
def onGrid? (rounding : Rounding) (exponent : Int) : Option Nat :=
  let scaled := rounding.scale (Nat.pow 10 (-exponent).toNat)
  let step := rounding.denominator * Nat.pow 10 exponent.toNat
  let below := scaled.value / step
  let left := scaled.value - below * step
  let right := (below + 1) * step - scaled.value
  match scaled.contains (below * step), scaled.contains ((below + 1) * step) with
  | true, true =>
    if left < right ∨ (left = right ∧ below % 2 = 0) then some below
    else some (below + 1)
  | true, false => some below
  | false, true => some (below + 1)
  | false, false => none

/-- The exponent of the leading decimal digit, searched downwards. -/
def magnitude (rounding : Rounding) : Nat → Int → Int
  | 0, exponent => exponent
  | tries + 1, exponent =>
    if rounding.denominator * Nat.pow 10 exponent.toNat
        ≤ rounding.value * Nat.pow 10 (-exponent).toNat then exponent
    else magnitude rounding tries (exponent - 1)

/-- The coarsest of some grids with a point that rounds to the double. -/
def search (rounding : Rounding) : Nat → Int → Nat × Int
  | 0, exponent => (0, exponent)
  | grids + 1, exponent =>
    match rounding.onGrid? exponent with
    | some digits => (digits, exponent)
    | none => search rounding grids (exponent - 1)

end Rounding

/-- Take zeros from the end of a positive decimal. -/
def stripZeros : Nat → Nat × Int → Nat × Int
  | 0, decimal => decimal
  | tries + 1, (digits, exponent) =>
    if digits % 10 = 0 ∧ digits ≠ 0 then
      stripZeros tries (digits / 10, exponent + 1)
    else (digits, exponent)

/-- Digits and exponent of the shortest decimal for a positive double. -/
def shortest (bits : UInt64) : Nat × Int :=
  let fraction := (bits &&& 0xfffffffffffff).toNat
  let exponent := ((bits >>> 52) &&& 0x7ff).toNat
  let rounding :=
    if exponent = 0 then Rounding.ofBinary fraction (-1074) false
    else
      Rounding.ofBinary (Nat.pow 2 52 + fraction) (exponent - 1075)
        (fraction = 0 ∧ 1 < exponent)
  stripZeros 20 (rounding.search 17 (rounding.magnitude 640 309))

/-- Zeros as characters. -/
def zeros (count : Nat) : String := .ofList (List.replicate count '0')

/--
Places the point in a decimal: positional from five zeros behind the point to
sixteen digits before it, with a signed exponent elsewhere.
-/
def layout (digits : String) (exponent : Int) : String :=
  let length : Int := digits.length
  let point := length + exponent
  if 0 ≤ exponent ∧ point ≤ 16 then digits ++ zeros exponent.toNat ++ ".0"
  else if 0 < point ∧ point ≤ 16 then
    String.ofList (digits.toList.take point.toNat) ++ "."
      ++ String.ofList (digits.toList.drop point.toNat)
  else if -5 < point ∧ point ≤ 0 then "0." ++ zeros (-point).toNat ++ digits
  else
    let fraction := digits.toList.drop 1
    String.ofList (digits.toList.take 1)
      ++ (if fraction.isEmpty then "" else "." ++ String.ofList fraction)
      ++ (if 0 < point then "e+" else "e") ++ toString (point - 1)

/-- The text of a finite double. -/
def render (value : Float) : String :=
  let bits := value.toBits
  let sign := if bits >>> 63 = 1 then "-" else ""
  let size := bits &&& 0x7fffffffffffffff
  if size = 0 then sign ++ "0.0"
  else
    let (digits, exponent) := shortest size
    sign ++ layout (toString digits) exponent

end Disclosure.Decimal
