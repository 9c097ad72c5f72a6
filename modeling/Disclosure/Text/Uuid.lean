import Disclosure.Text.Numeral

/-!
# Universally unique identifiers

An identifier is 32 hexadecimal digits in either case: bare, or with hyphens
after the eighth, twelfth, sixteenth and twentieth digit; the latter form may
stand in braces or after `urn:uuid:`, in either case too.  It is written small
and with hyphens.
-/

namespace Disclosure.Text.Uuid

/-- Hyphens put behind 8, 4, 4 and 4 characters. -/
def hyphenate (digits : List Char) : List Char :=
  digits.take 8 ++ '-' :: (digits.drop 8).take 4
    ++ '-' :: (digits.drop 12).take 4 ++ '-' :: (digits.drop 16).take 4
    ++ '-' :: digits.drop 20

/-- The digits of an identifier without hyphens. -/
def bare? (chars : List Char) : Option (List Char) :=
  if chars.length = 32 ∧ chars.all (fun char => (hexDigit? char).isSome) then
    some (chars.map Char.toLower)
  else none

/-- The digits of an identifier with hyphens. -/
def hyphenated? (chars : List Char) : Option (List Char) :=
  let digits := chars.filter (· ≠ '-')
  if hyphenate digits = chars then bare? digits else none

/-- The characters without the wrapping that an identifier may have. -/
def unwrap (chars : List Char) : List Char :=
  let urn := ['u', 'r', 'n', ':', 'u', 'u', 'i', 'd', ':']
  if chars.length = 38 ∧ chars.head? = some '\x7b'
      ∧ chars.getLast? = some '\x7d' then chars.tail.dropLast
  else if chars.length = 45 ∧ (chars.take 9).map Char.toLower = urn then
    chars.drop 9
  else chars

/-- The usual form of an identifier. -/
def parse? (text : String) : Option String :=
  let chars := text.toList
  (bare? chars <|> hyphenated? (unwrap chars)).map fun digits =>
    String.ofList (hyphenate digits)

end Disclosure.Text.Uuid
