import Disclosure.Json.Value

/-!
# Reading JSON

Readers on lists of characters, which give back the characters that they leave.
A record that was read has its fields sorted by key, the last field winning
among those of one key.  A numeral without fraction and exponent is an integer
as long as it fits 64 bits; all others are doubles, made of at most the leading
digits that fit 64 bits and scaled by a power of ten.
-/

namespace Disclosure.Json.Reader

/-- Blanks between tokens. -/
def skip : List Char → List Char :=
  List.dropWhile fun char => char = ' ' || char = '\n' || char = '\r' || char = '\t'

/-- A word at the start. -/
def word (expected : List Char) (chars : List Char) : Option (List Char) :=
  if expected.isPrefixOf chars then some (chars.drop expected.length) else none

/-! ## Texts -/

/-- The value of four hexadecimal digits. -/
def fourDigits : List Char → Option (Nat × List Char)
  | a :: b :: c :: d :: rest => do
    let value := (← Text.hexDigit? a) * 4096 + (← Text.hexDigit? b) * 256
      + (← Text.hexDigit? c) * 16 + (← Text.hexDigit? d)
    return (value, rest)
  | _ => none

/-- The character after a backslash and `u`; two units may make up one. -/
def unicodeEscape (chars : List Char) : Option (Char × List Char) := do
  let (high, rest) ← fourDigits chars
  if 0xd800 ≤ high ∧ high < 0xdc00 then
    match rest with
    | '\\' :: 'u' :: rest => do
      let (low, rest) ← fourDigits rest
      if 0xdc00 ≤ low ∧ low < 0xe000 then
        return (Char.ofNat (0x10000 + (high - 0xd800) * 0x400 + (low - 0xdc00)),
          rest)
      else none
    | _ => none
  else if 0xdc00 ≤ high ∧ high < 0xe000 then none
  else return (Char.ofNat high, rest)

/-- The character after a backslash. -/
def escape : List Char → Option (Char × List Char)
  | '"' :: rest => some ('"', rest)
  | '\\' :: rest => some ('\\', rest)
  | '/' :: rest => some ('/', rest)
  | 'b' :: rest => some ('\x08', rest)
  | 'f' :: rest => some ('\x0c', rest)
  | 'n' :: rest => some ('\n', rest)
  | 'r' :: rest => some ('\r', rest)
  | 't' :: rest => some ('\t', rest)
  | 'u' :: rest => unicodeEscape rest
  | _ => none

/-- The characters up to the closing quote, put in front of those read. -/
def textFrom (read : List Char) : Nat → List Char → Option (String × List Char)
  | 0, _ => none
  | _, [] => none
  | fuel + 1, char :: rest =>
    if char = '"' then some (String.ofList read.reverse, rest)
    else if char = '\\' then do
      let (char, rest) ← escape rest
      textFrom (char :: read) fuel rest
    else if char.toNat < 0x20 then none
    else textFrom (char :: read) fuel rest

/-! ## Numbers -/

/-- The part of a numeral that decides its value, up to its sign. -/
structure Numeral where
  significand : Nat
  exponent : Int
  isInt : Bool

/-- Digits while the number fits 64 bits; the rest of them is only counted. -/
def digitsFrom (value : Nat) (kept dropped : Nat) :
    List Char → Nat × Nat × Nat × List Char
  | [] => (value, kept, dropped, [])
  | char :: rest =>
    match Text.digit? char with
    | none => (value, kept, dropped, char :: rest)
    | some digit =>
      let more := 10 * value + digit
      if dropped = 0 ∧ more < UInt64.size then digitsFrom more (kept + 1) 0 rest
      else digitsFrom value kept (dropped + 1) rest

/-- An exponent part, if there is one. -/
def exponentPart (numeral : Numeral) : List Char → Option (Numeral × List Char)
  | char :: rest =>
    if char = 'e' ∨ char = 'E' then
      let (negative, rest) :=
        match rest with
        | '-' :: rest => (true, rest)
        | '+' :: rest => (false, rest)
        | _ => (false, rest)
      let (value, kept, dropped, rest) := digitsFrom 0 0 0 rest
      if kept + dropped = 0 then none
      else
        let size : Int := if dropped = 0 then min value 100000 else 100000
        some ({ numeral with
          exponent := numeral.exponent + if negative then -size else size
          isInt := false }, rest)
    else some (numeral, char :: rest)
  | [] => some (numeral, [])

/-- A fraction part, if there is one. -/
def fractionPart (numeral : Numeral) : List Char → Option (Numeral × List Char)
  | '.' :: rest =>
    let (value, kept, dropped, rest) :=
      digitsFrom numeral.significand 0 0 rest
    if kept + dropped = 0 then none
    else some (⟨value, numeral.exponent - kept, false⟩, rest)
  | rest => some (numeral, rest)

/-- Scale a double by a power of ten, in steps that are doubles themselves. -/
def scaleDown (value : Float) : Nat → Nat → Float
  | 0, exponent => value / Float.ofScientific 1 false exponent
  | steps + 1, exponent =>
    if exponent ≤ 308 then value / Float.ofScientific 1 false exponent
    else scaleDown (value / 1e308) steps (exponent - 308)

/-- The double that a numeral denotes; none above the finite ones. -/
def Numeral.toFloat? (numeral : Numeral) : Option Float :=
  let value := numeral.significand.toUInt64.toFloat
  if numeral.significand = 0 then some value
  else if numeral.exponent < 0 then
    some (scaleDown value 400 (-numeral.exponent).toNat)
  else if numeral.exponent ≤ 308 then
    let product := value * Float.ofScientific 1 false numeral.exponent.toNat
    if product.isInf then none else some product
  else none

/-- The value of a numeral with its sign. -/
def Numeral.value? (negative : Bool) (numeral : Numeral) : Option Json := do
  let whole := numeral.isInt && numeral.exponent = 0
  if whole && !negative then return .int numeral.significand
  else if whole && 0 < numeral.significand
      && numeral.significand ≤ Nat.pow 2 63 then
    return .int (-numeral.significand)
  else
    let value ← numeral.toFloat?
    return .real (if negative then -value else value)

/-- A number. -/
def number (chars : List Char) : Option (Json × List Char) := do
  let (negative, chars) :=
    match chars with
    | '-' :: rest => (true, rest)
    | _ => (false, chars)
  let (value, kept, dropped, rest) := digitsFrom 0 0 0 chars
  let leadingZero := chars.head? = some '0' && 1 < kept
  if kept = 0 || leadingZero then none
  else
    let (numeral, rest) ← fractionPart ⟨value, dropped, true⟩ rest
    let (numeral, rest) ← exponentPart numeral rest
    return (← numeral.value? negative, rest)

/-! ## Values -/

/-- Put a field in its place among sorted ones, over one of the same key. -/
def insertField (key : String) (value : Json) :
    List (String × Json) → List (String × Json)
  | [] => [(key, value)]
  | (other, found) :: fields =>
    if key < other then (key, value) :: (other, found) :: fields
    else if key = other then (key, value) :: fields
    else (other, found) :: insertField key value fields

mutual

/-- A value after blanks. -/
def value : Nat → List Char → Option (Json × List Char)
  | 0, _ => none
  | fuel + 1, chars =>
    match skip chars with
    | '"' :: rest => do
      let (value, rest) ← textFrom [] fuel rest
      return (.text value, rest)
    | '[' :: rest =>
      match skip rest with
      | ']' :: rest => some (.list [], rest)
      | rest => items [] fuel rest
    | '\x7b' :: rest =>
      match skip rest with
      | '\x7d' :: rest => some (.record [], rest)
      | rest => fields [] fuel rest
    | 'n' :: rest => (word ['u', 'l', 'l'] rest).map (Json.null, ·)
    | 't' :: rest => (word ['r', 'u', 'e'] rest).map (Json.bool true, ·)
    | 'f' :: rest => (word ['a', 'l', 's', 'e'] rest).map (Json.bool false, ·)
    | rest => number rest

/-- The items of a list from the next one on. -/
def items (read : List Json) : Nat → List Char → Option (Json × List Char)
  | 0, _ => none
  | fuel + 1, chars => do
    let (item, rest) ← value fuel chars
    match skip rest with
    | ',' :: rest => items (item :: read) fuel rest
    | ']' :: rest => return (.list (item :: read).reverse, rest)
    | _ => none

/-- The fields of a record from the next one on. -/
def fields (read : List (String × Json)) : Nat → List Char → Option (Json × List Char)
  | 0, _ => none
  | fuel + 1, chars =>
    match skip chars with
    | '"' :: rest => do
      let (key, rest) ← textFrom [] fuel rest
      match skip rest with
      | ':' :: rest =>
        let (found, rest) ← value fuel rest
        let read := insertField key found read
        match skip rest with
        | ',' :: rest => fields read fuel rest
        | '\x7d' :: rest => return (.record read, rest)
        | _ => none
      | _ => none
    | _ => none

end

end Disclosure.Json.Reader

namespace Disclosure.Json

/-- Reads one value that makes up the whole text. -/
def parse? (text : String) : Option Json := do
  let chars := text.toList
  let (value, rest) ← Reader.value (2 * chars.length + 2) chars
  if (Reader.skip rest).isEmpty then some value else none

end Disclosure.Json
