import Disclosure.Json.Decimal

/-!
# JSON values

Reports, logs and message bodies are JSON.  A record keeps its fields in the
order in which they were given, and a number knows whether it is an integer.
Two printers are given: one without any space, one indented by two blanks.
-/

namespace Disclosure

inductive Json where
  | null
  | bool (value : Bool)
  | int (value : Int)
  | real (value : Float)
  | text (value : String)
  | list (items : List Json)
  | record (fields : List (String × Json))
  deriving Inhabited

namespace Json

/-- A natural number. -/
def nat (value : Nat) : Json := int value

/-- A character inside the quotes. -/
def escapeChar (char : Char) : String :=
  if char = '"' then "\\\""
  else if char = '\\' then "\\\\"
  else if char = '\n' then "\\n"
  else if char = '\r' then "\\r"
  else if char = '\t' then "\\t"
  else if char = '\x08' then "\\b"
  else if char = '\x0c' then "\\f"
  else if char.toNat < 0x20 then "\\u" ++ Text.hexPadded 4 char.toNat
  else char.toString

def quote (value : String) : String :=
  "\"" ++ String.join (value.toList.map escapeChar) ++ "\""

mutual

/-- The text of a value without any space in it. -/
def compress : Json → String
  | null => "null"
  | bool true => "true"
  | bool false => "false"
  | int value => toString value
  | real value => Decimal.render value
  | text value => quote value
  | list items => "[" ++ ",".intercalate (compressItems items) ++ "]"
  | record fields => "\x7b" ++ ",".intercalate (compressFields fields) ++ "\x7d"

def compressItems : List Json → List String
  | [] => []
  | item :: items => item.compress :: compressItems items

def compressFields : List (String × Json) → List String
  | [] => []
  | (key, value) :: fields =>
    (quote key ++ ":" ++ value.compress) :: compressFields fields

end

def newline (depth : Nat) : String :=
  "\n" ++ String.ofList (List.replicate (2 * depth) ' ')

/-- Brackets around lines that stand one level deeper; none for no lines. -/
def enclose (depth : Nat) (left right : String) : List String → String
  | [] => left ++ right
  | lines =>
    left ++ newline (depth + 1)
      ++ ("," ++ newline (depth + 1)).intercalate lines ++ newline depth ++ right

mutual

/-- The indented text of a value at a given depth. -/
def prettyAt (depth : Nat) : Json → String
  | list items => enclose depth "[" "]" (prettyItems (depth + 1) items)
  | record fields =>
    enclose depth "\x7b" "\x7d" (prettyFields (depth + 1) fields)
  | value => value.compress

def prettyItems (depth : Nat) : List Json → List String
  | [] => []
  | item :: items => item.prettyAt depth :: prettyItems depth items

def prettyFields (depth : Nat) : List (String × Json) → List String
  | [] => []
  | (key, value) :: fields =>
    (quote key ++ ": " ++ value.prettyAt depth) :: prettyFields depth fields

end

/-- The text of a value indented by two blanks for each level. -/
def pretty (value : Json) : String := value.prettyAt 0

end Json

end Disclosure
