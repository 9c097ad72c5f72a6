import Disclosure.Text.Hidden
import Disclosure.Text.Numeral

/-!
# Unreadable values

Why a text denotes no value of the protocol.  The error shows a letter that
cannot be read in quotes, or by its number where it would not be seen.
-/

namespace Disclosure

namespace Text

/-- The character between the quotes; hidden ones are shown by their number. -/
def escapeChar (char : Char) : String :=
  if char = '\x00' then "\\0"
  else if char = '\t' then "\\t"
  else if char = '\r' then "\\r"
  else if char = '\n' then "\\n"
  else if char = '\'' then "\\'"
  else if char = '\\' then "\\\\"
  else if isHidden char then "\\u\x7b" ++ hex char.toNat ++ "\x7d"
  else char.toString

/-- A character in single quotes. -/
def quoteChar (char : Char) : String := "'" ++ escapeChar char ++ "'"

end Text

/-- Why a text denotes no value of the protocol. -/
inductive ValueError where
  | unknownMessageType (text : String)
  | unknownRole (letter : Char)
  | unknownState (text : String)
  deriving DecidableEq, Repr

namespace ValueError

def kind : ValueError → String
  | unknownMessageType _ => "UnknownMessageType"
  | unknownRole _ => "UnknownRole"
  | unknownState _ => "UnknownState"

def message : ValueError → String
  | unknownMessageType text => "Unknown message type: " ++ text
  | unknownRole letter => "Unknown role letter: " ++ Text.quoteChar letter
  | unknownState text => "Unknown state: " ++ text

end ValueError

end Disclosure
