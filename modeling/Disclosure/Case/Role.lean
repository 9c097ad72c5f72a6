import Disclosure.Case.ValueError
import Disclosure.Json.Decode
import Disclosure.Text.Blank

/-!
# Roles and capabilities

An actor can play several roles at once.  Its roles are written as letters in
one fixed order, and a dash stands for none; they imply what it is able to do.
-/

namespace Disclosure

/-- One role in a case. -/
inductive Role where
  | finder
  | reporter
  | vendor
  | deployer
  | coordinator
  | other
  deriving DecidableEq, Repr

namespace Role

/-- Every role once, in written order. -/
def all : List Role := [finder, reporter, vendor, deployer, coordinator, other]

theorem mem_all (role : Role) : role ∈ all := by
  cases role <;> decide

def letter : Role → Char
  | finder => 'F'
  | reporter => 'R'
  | vendor => 'V'
  | deployer => 'D'
  | coordinator => 'C'
  | other => 'O'

/-- The role of a letter in either case. -/
def ofLetter? (char : Char) : Option Role :=
  all.find? fun role => role.letter == char.toUpper

end Role

/-- A set of roles. -/
structure Roles where
  finder : Bool
  reporter : Bool
  vendor : Bool
  deployer : Bool
  coordinator : Bool
  other : Bool
  deriving DecidableEq, Repr, Inhabited

namespace Roles

def none : Roles := ⟨false, false, false, false, false, false⟩

def has (roles : Roles) : Role → Bool
  | .finder => roles.finder
  | .reporter => roles.reporter
  | .vendor => roles.vendor
  | .deployer => roles.deployer
  | .coordinator => roles.coordinator
  | .other => roles.other

def insert (roles : Roles) : Role → Roles
  | .finder => { roles with finder := true }
  | .reporter => { roles with reporter := true }
  | .vendor => { roles with vendor := true }
  | .deployer => { roles with deployer := true }
  | .coordinator => { roles with coordinator := true }
  | .other => { roles with other := true }

@[simp]
theorem has_insert (roles : Roles) (role asked : Role) :
    (roles.insert role).has asked = (role == asked || roles.has asked) := by
  cases role <;> cases asked <;> rfl

def ofList (roles : List Role) : Roles := roles.foldl insert none

/-- The roles in written order. -/
def toList (roles : Roles) : List Role := Role.all.filter roles.has

/-- Whether all roles of another set are in this one. -/
def contains (roles others : Roles) : Bool := others.toList.all roles.has

/-- The set as a number, the first role weighing least. -/
def bits (roles : Roles) : Nat :=
  roles.finder.toNat + 2 * roles.reporter.toNat + 4 * roles.vendor.toNat
    + 8 * roles.deployer.toNat + 16 * roles.coordinator.toNat
    + 32 * roles.other.toNat

def code (roles : Roles) : String :=
  if roles = none then "-" else .ofList (roles.toList.map Role.letter)

/-- Add the roles of letters, up to the first character that is none. -/
def readLetters (roles : Roles) : List Char → Except ValueError Roles
  | [] => .ok roles
  | char :: chars =>
    match Role.ofLetter? char with
    | some role => readLetters (roles.insert role) chars
    | .none => .error (.unknownRole char)

/-- The roles that trimmed characters denote. -/
def ofChars (chars : List Char) : Except ValueError Roles :=
  if chars = ['-'] then .ok none else readLetters none chars

/-- Reads letters in any order and either case; a dash or nothing is no role. -/
def parse (text : String) : Except ValueError Roles :=
  ofChars (Text.trimChars text.toList)

def toJson (roles : Roles) : Json := .text roles.code

def ofJson? (value : Json) : Option Roles := do
  (parse (← value.text?)).toOption

end Roles

/-- What an actor is able to do. -/
structure Capabilities where
  discoverVulnerability : Bool
  reportToOthers : Bool
  developFix : Bool
  deployFix : Bool
  deriving DecidableEq, Repr

namespace Capabilities

def none : Capabilities := ⟨false, false, false, false⟩

def all : Capabilities := ⟨true, true, true, true⟩

/-- What roles imply. -/
def ofRoles (roles : Roles) : Capabilities where
  discoverVulnerability := roles.finder || roles.vendor
  reportToOthers := roles.reporter || roles.coordinator
  developFix := roles.vendor
  deployFix := roles.deployer

def columns : List String :=
  ["discover_vulnerability", "report_to_others", "develop_fix", "deploy_fix"]

def toJson (abilities : Capabilities) : Json :=
  .record
    [("discover_vulnerability", .bool abilities.discoverVulnerability),
     ("report_to_others", .bool abilities.reportToOthers),
     ("develop_fix", .bool abilities.developFix),
     ("deploy_fix", .bool abilities.deployFix)]

def ofJson? (value : Json) : Option Capabilities := do
  match ← (← value.columns? columns).mapM fun field => field.bind Json.bool? with
  | [discover, report, develop, deploy] =>
    return ⟨discover, report, develop, deploy⟩
  | _ => failure

end Capabilities

end Disclosure
