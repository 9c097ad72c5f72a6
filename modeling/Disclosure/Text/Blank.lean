/-!
# Blanks

The characters that Unicode calls white space, and the trimming and splitting of
texts that are written by hand.  The functions work on lists of characters and
are carried over to strings.
-/

namespace Disclosure.Text

/-- The white space characters of Unicode. -/
def isBlank (char : Char) : Bool :=
  (9 ≤ char.toNat && char.toNat ≤ 13)
    || [0x20, 0x85, 0xa0, 0x1680, 0x2028, 0x2029, 0x202f, 0x205f,
      0x3000].contains char.toNat
    || (0x2000 ≤ char.toNat && char.toNat ≤ 0x200a)

/-- The characters from the first one on that is no blank. -/
def dropBlanks (chars : List Char) : List Char := chars.dropWhile isBlank

/-- The characters between the first and the last one that is no blank. -/
def trimChars (chars : List Char) : List Char :=
  (dropBlanks (dropBlanks chars).reverse).reverse

/-- The text without the blanks around it. -/
def trim (text : String) : String := .ofList (trimChars text.toList)

/-- The parts of a list between the occurrences of a separator. -/
def splitChars (separator : Char) : List Char → List (List Char)
  | [] => [[]]
  | char :: chars =>
    if char = separator then [] :: splitChars separator chars
    else
      match splitChars separator chars with
      | [] => [[char]]
      | part :: parts => (char :: part) :: parts

theorem splitChars_ne_nil (separator : Char) (chars : List Char) :
    splitChars separator chars ≠ [] := by
  cases chars with
  | nil => simp [splitChars]
  | cons char chars =>
    rw [splitChars]
    split
    · simp
    · split <;> simp

/-- The characters before and after the first separator. -/
def cutChars (separator : Char) : List Char → Option (List Char × List Char)
  | [] => none
  | char :: chars =>
    if char = separator then some ([], chars)
    else (cutChars separator chars).map fun (left, right) => (char :: left, right)

/-- The ASCII capital letters made small, all else unchanged. -/
def lowerAscii (text : String) : String := text.map Char.toLower

/-- Equality of texts up to the case of ASCII letters. -/
def sameFolded (left right : String) : Bool :=
  left.toList.map Char.toLower == right.toList.map Char.toLower

end Disclosure.Text
