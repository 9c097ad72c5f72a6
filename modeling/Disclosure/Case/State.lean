import Disclosure.Case.ValueError
import Disclosure.Json.Decode

/-!
# Case states

Six flags tell how far a case has come: three on the side of the vendor, which
is on the way to a fix, and three on the side of the public, which ends every
embargo.  The written form has a letter for each flag, a capital one when the
flag is set.
-/

namespace Disclosure

/-- One flag of a case. -/
inductive CaseFlag where
  | vendorAware
  | fixReady
  | fixDeployed
  | publicAware
  | exploitPublic
  | attacksObserved
  deriving DecidableEq, Repr

namespace CaseFlag

/-- Every flag once, in written order. -/
def all : List CaseFlag :=
  [vendorAware, fixReady, fixDeployed, publicAware, exploitPublic,
   attacksObserved]

theorem mem_all (flag : CaseFlag) : flag ∈ all := by
  cases flag <;> decide

/-- The letter of a flag that is not set. -/
def letter : CaseFlag → Char
  | vendorAware => 'v'
  | fixReady => 'f'
  | fixDeployed => 'd'
  | publicAware => 'p'
  | exploitPublic => 'x'
  | attacksObserved => 'a'

/-- The letter of a flag that is set. -/
def capital (flag : CaseFlag) : Char := flag.letter.toUpper

/-- The name in reports. -/
def name : CaseFlag → String
  | vendorAware => "VendorAware"
  | fixReady => "FixReady"
  | fixDeployed => "FixDeployed"
  | publicAware => "PublicAware"
  | exploitPublic => "ExploitPublic"
  | attacksObserved => "AttacksObserved"

def toJson (flag : CaseFlag) : Json := .text flag.name

def ofJson? : Json → Option CaseFlag := Json.oneOf? all name

end CaseFlag

/-- The flags of a case. -/
structure CaseState where
  vendorAware : Bool
  fixReady : Bool
  fixDeployed : Bool
  publicAware : Bool
  exploitPublic : Bool
  attacksObserved : Bool
  deriving DecidableEq, Repr, Inhabited

namespace CaseState

/-- Nothing has happened yet. -/
def initial : CaseState := ⟨false, false, false, false, false, false⟩

def has (state : CaseState) : CaseFlag → Bool
  | .vendorAware => state.vendorAware
  | .fixReady => state.fixReady
  | .fixDeployed => state.fixDeployed
  | .publicAware => state.publicAware
  | .exploitPublic => state.exploitPublic
  | .attacksObserved => state.attacksObserved

def insert (state : CaseState) : CaseFlag → CaseState
  | .vendorAware => { state with vendorAware := true }
  | .fixReady => { state with fixReady := true }
  | .fixDeployed => { state with fixDeployed := true }
  | .publicAware => { state with publicAware := true }
  | .exploitPublic => { state with exploitPublic := true }
  | .attacksObserved => { state with attacksObserved := true }

@[simp]
theorem has_insert (state : CaseState) (flag other : CaseFlag) :
    (state.insert flag).has other = (flag == other || state.has other) := by
  cases flag <;> cases other <;> rfl

/-- The state in which exactly the given flags are set. -/
def ofFlags (flags : List CaseFlag) : CaseState := flags.foldl insert initial

def flags (state : CaseState) : List CaseFlag := CaseFlag.all.filter state.has

/-- Three flags as a number, the first one weighing most. -/
def triad (high middle low : Bool) : Nat :=
  4 * high.toNat + 2 * middle.toNat + low.toNat

/-- The flags of the vendor as a number. -/
def vendorBits (state : CaseState) : Nat :=
  triad state.vendorAware state.fixReady state.fixDeployed

/-- The flags of the public as a number. -/
def publicBits (state : CaseState) : Nat :=
  triad state.publicAware state.exploitPublic state.attacksObserved

/-- All flags as a number. -/
def bits (state : CaseState) : Nat := 8 * state.vendorBits + state.publicBits

/-- What a newcomer to the case inherits: the flags of the public. -/
def publicPart (state : CaseState) : CaseState :=
  { state with vendorAware := false, fixReady := false, fixDeployed := false }

/-- Nothing is public and no attack was seen: an embargo is possible. -/
def isQuiet (state : CaseState) : Bool :=
  !(state.publicAware || state.exploitPublic || state.attacksObserved)

/-- The vendor knows and has a fix. -/
def vendorHasFix (state : CaseState) : Bool :=
  state.vendorAware && state.fixReady

/-- The vendor has come to the end of its way. -/
def vendorDone (state : CaseState) : Bool :=
  state.vendorAware && state.fixReady && state.fixDeployed

/-- Both the vulnerability and an exploit are public. -/
def exploitKnown (state : CaseState) : Bool :=
  state.publicAware && state.exploitPublic

/-! ## The written form -/

/-- The letter that stands for a flag in the written form of a state. -/
def letterOf (state : CaseState) (flag : CaseFlag) : Char :=
  if state.has flag then flag.capital else flag.letter

def code (state : CaseState) : String :=
  .ofList (CaseFlag.all.map state.letterOf)

/-- Add the flags that letters set; each letter must be one of its flag. -/
def readLetters (state : CaseState) :
    List CaseFlag → List Char → Option CaseState
  | flag :: flags, char :: chars =>
    if char = flag.letter then readLetters state flags chars
    else if char = flag.capital then
      readLetters (state.insert flag) flags chars
    else none
  | [], [] => some state
  | _, _ => none

/-- Reads the written form. -/
def parse (text : String) : Except ValueError CaseState :=
  match readLetters initial CaseFlag.all text.toList with
  | some state => .ok state
  | none => .error (.unknownState text)

def toJson (state : CaseState) : Json := .text state.code

def ofJson? (value : Json) : Option CaseState := do
  (parse (← value.text?)).toOption

end CaseState

end Disclosure
