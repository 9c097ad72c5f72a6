import Disclosure.Case.Report
import Disclosure.Case.Embargo
import Disclosure.Case.State
import Disclosure.Case.Role

/-!
# The roster of a case

What an actor knows about the other parties: those that take part in the case,
and candidates that might be told about it.  Candidates get generated names;
where names repeat, the first candidate of a name counts.
-/

namespace Disclosure

/-- What one actor knows about another party. -/
structure Participant where
  name : String
  roles : Roles
  report : ReportState
  embargo : EmbargoState
  state : CaseState
  deriving DecidableEq, Repr

namespace Participant

/-- A party that knows nothing about the case. -/
def new (name : String) (roles : Roles) : Participant where
  name := name
  roles := roles
  report := .start
  embargo := .noEmbargo
  state := .initial

/-- Not told about the report yet. -/
def isUnnotified (participant : Participant) : Bool :=
  participant.report == .start

def toJson (participant : Participant) : Json :=
  .record
    [("name", .text participant.name),
     ("role", participant.roles.toJson),
     ("q_rm", participant.report.toJson),
     ("q_em", participant.embargo.toJson),
     ("q_cs", participant.state.toJson)]

def ofJson? (value : Json) : Option Participant := do
  match ← value.columns? ["name", "role", "q_rm", "q_em", "q_cs"] with
  | [some name, some roles, some report, some embargo, some state] =>
    return {
      name := ← name.text?
      roles := ← Roles.ofJson? roles
      report := ← ReportState.ofJson? report
      embargo := ← EmbargoState.ofJson? embargo
      state := ← CaseState.ofJson? state }
  | _ => failure

end Participant

/-- The parties to a case and the candidates, with a count of generated names. -/
structure Roster where
  participants : List Participant
  potential : List Participant
  injected : UInt64
  deriving DecidableEq, Repr

namespace Roster

def empty : Roster := ⟨[], [], 0⟩

/-- The name that is generated for the candidate of some number. -/
def generatedName (kind : String) (number : UInt64) : String :=
  Text.lowerAscii kind ++ "-" ++ toString number.toNat

/-- A new candidate of a kind under a generated name. -/
def inject (roster : Roster) (kind : String) (roles : Roles) :
    Participant × Roster :=
  let number := roster.injected + 1
  let candidate := Participant.new (generatedName kind number) roles
  (candidate,
    { roster with
      potential := roster.potential ++ [candidate], injected := number })

/-- A candidate that was known by name. -/
def addPotential (roster : Roster) (candidate : Participant) : Roster :=
  { roster with potential := roster.potential ++ [candidate] }

def potential? (roster : Roster) (name : String) : Option Participant :=
  roster.potential.find? fun candidate => candidate.name == name

/-- Change the first entry of a name in a list. -/
def modifyFirst (name : String) (change : Participant → Participant) :
    List Participant → List Participant
  | [] => []
  | candidate :: candidates =>
    if candidate.name = name then change candidate :: candidates
    else candidate :: modifyFirst name change candidates

def modifyPotential (roster : Roster) (name : String)
    (change : Participant → Participant) : Roster :=
  { roster with potential := modifyFirst name change roster.potential }

def removePotential (roster : Roster) (name : String) : Roster :=
  { roster with
    potential := roster.potential.eraseP fun candidate => candidate.name == name }

/-- Move a candidate into the case; nobody moves if the name is unknown. -/
def engage (roster : Roster) (name : String) :
    Option Participant × Roster :=
  match roster.potential? name with
  | none => (none, roster)
  | some candidate =>
    (some candidate,
      { roster.removePotential name with
        participants := roster.participants ++ [candidate] })

/-- Whether a party of this name takes part in the case. -/
def isParticipant (roster : Roster) (name : String) : Bool :=
  roster.participants.any fun participant => participant.name == name

def toJson (roster : Roster) : Json :=
  .record
    [("participants", .list (roster.participants.map Participant.toJson)),
     ("potential_participants", .list (roster.potential.map Participant.toJson)),
     ("injected", .nat roster.injected.toNat)]

def ofJson? (value : Json) : Option Roster := do
  match ← value.columns? ["participants", "potential_participants", "injected"] with
  | [some participants, some potential, some injected] =>
    return {
      participants := ← participants.listOf? Participant.ofJson?
      potential := ← potential.listOf? Participant.ofJson?
      injected := ← injected.uint64? }
  | _ => failure

end Roster

end Disclosure
