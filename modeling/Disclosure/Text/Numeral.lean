/-!
# Numerals

Hexadecimal digits for words, and decimal numerals of unsigned 64-bit numbers as
people type them.
-/

namespace Disclosure.Text

/-- A number in small hexadecimal digits. -/
def hex (value : Nat) : String := .ofList (Nat.toDigits 16 value)

/-- Characters put before a list until it has the given length. -/
def padLeft (width : Nat) (fill : Char) (chars : List Char) : List Char :=
  List.replicate (width - chars.length) fill ++ chars

/-- A number in at least the given number of hexadecimal digits. -/
def hexPadded (width value : Nat) : String :=
  .ofList (padLeft width '0' (Nat.toDigits 16 value))

/-- A number in at least the given number of decimal digits. -/
def decimalPadded (width value : Nat) : String :=
  .ofList (padLeft width '0' (Nat.toDigits 10 value))

/-- The value of a decimal digit. -/
def digit? (char : Char) : Option Nat :=
  if '0' ≤ char ∧ char ≤ '9' then some (char.toNat - '0'.toNat) else none

/-- The value of a hexadecimal digit in either case. -/
def hexDigit? (char : Char) : Option Nat :=
  if '0' ≤ char ∧ char ≤ '9' then some (char.toNat - '0'.toNat)
  else if 'a' ≤ char ∧ char ≤ 'f' then some (char.toNat - 'a'.toNat + 10)
  else if 'A' ≤ char ∧ char ≤ 'F' then some (char.toNat - 'A'.toNat + 10)
  else none

/-- The number that decimal digits denote after a number already read. -/
def readDigits (value : Nat) : List Char → Option Nat
  | [] => some value
  | char :: chars => do readDigits (10 * value + (← digit? char)) chars

/--
Reads a decimal numeral below `2 ^ 64`; one plus sign may stand before the
digits, of which there is at least one.
-/
def parseUInt64? (text : String) : Option UInt64 :=
  let digits :=
    match text.toList with
    | '+' :: digits => digits
    | digits => digits
  if digits.isEmpty then none
  else do
    let value ← readDigits 0 digits
    if value < UInt64.size then some value.toUInt64 else none

end Disclosure.Text
