import Disclosure.Json.Reader

/-!
# From JSON to values of the domain

Small steps that decoders are made of.  A record stands for its fields by name,
whatever else it holds, or by a list of exactly their values in order; the name
of a constant stands for itself or is the one key of a record over `null`.
-/

namespace Disclosure.Json

/-- The value of the first field of a name. -/
def field? (name : String) : Json → Option Json
  | record fields => fields.lookup name
  | _ => none

/-- The values under some names: each may be absent from a record. -/
def columns? (names : List String) : Json → Option (List (Option Json))
  | record fields => some (names.map fun name => fields.lookup name)
  | list items =>
    if items.length = names.length then some (items.map some) else none
  | _ => none

def text? : Json → Option String
  | text value => some value
  | _ => none

def bool? : Json → Option Bool
  | bool value => some value
  | _ => none

def natBelow? (bound : Nat) : Json → Option Nat
  | int value => if 0 ≤ value ∧ value < bound then some value.toNat else none
  | _ => none

def uint64? (value : Json) : Option UInt64 :=
  (value.natBelow? UInt64.size).map Nat.toUInt64

def uint32? (value : Json) : Option UInt32 :=
  (value.natBelow? UInt32.size).map Nat.toUInt32

/-- The items of a list, each decoded. -/
def listOf? (decode : Json → Option α) : Json → Option (List α)
  | list items => items.mapM decode
  | _ => none

/-- Nothing for an absent value and for `null`. -/
def optional? (decode : Json → Option α) : Option Json → Option (Option α)
  | none => some none
  | some null => some none
  | some value => (decode value).map some

/-- The name of a constant. -/
def constant? : Json → Option String
  | text name => some name
  | record [(name, null)] => some name
  | _ => none

/-- The one of some values whose name is given. -/
def oneOf? (values : List α) (nameOf : α → String) (value : Json) : Option α := do
  let name ← value.constant?
  values.find? fun value => nameOf value == name

end Disclosure.Json
