import Disclosure.Case.Message
import Disclosure.Case.Priority
import Disclosure.Case.Roster
import Disclosure.Tree.Policy

/-!
# The state of an actor

Everything that one actor knows about a case.  Its protocol tree works on this
state alone: all that an actor can do is one of the changes below.  Histories
and logs only ever grow, and at their end stands what is now.
-/

namespace Disclosure

/-- One row of the log of an actor, written at the beginning of a tick. -/
structure Snapshot where
  tick : UInt64
  report : ReportState
  embargo : EmbargoState
  caseState : CaseState
  roles : Roles
  received : List MessageType
  emitted : List MessageType
  deriving DecidableEq, Repr

namespace Snapshot

def toJson (row : Snapshot) : Json :=
  .record
    [("tick", .nat row.tick.toNat),
     ("q_rm", row.report.toJson),
     ("q_em", row.embargo.toJson),
     ("q_cs", row.caseState.toJson),
     ("role", row.roles.toJson),
     ("msgs_received", .list (row.received.map MessageType.toJson)),
     ("msgs_emitted", .list (row.emitted.map MessageType.toJson))]

def columns : List String :=
  ["tick", "q_rm", "q_em", "q_cs", "role", "msgs_received", "msgs_emitted"]

def ofJson? (value : Json) : Option Snapshot := do
  match ← value.columns? columns with
  | [some tick, some report, some embargo, some caseState, some roles,
      some received, some emitted] =>
    return {
      tick := ← tick.uint64?
      report := ← ReportState.ofJson? report
      embargo := ← EmbargoState.ofJson? embargo
      caseState := ← CaseState.ofJson? caseState
      roles := ← Roles.ofJson? roles
      received := ← received.listOf? MessageType.ofJson?
      emitted := ← emitted.listOf? MessageType.ofJson? }
  | _ => failure

end Snapshot

/-- How many attempts at telling others an actor makes. -/
def reportingBudget : UInt32 := 200

/-- What an actor knows. -/
structure ActorState where
  name : String
  roles : Roles
  abilities : Capabilities
  report : ReportState
  embargo : EmbargoState
  caseState : CaseState
  reportHistory : List ReportState
  embargoHistory : List EmbargoState
  caseHistory : List CaseState
  /-- Messages that wait, the oldest first. -/
  inbox : List Message
  /-- The message that is being handled. -/
  current : Option Message
  /-- Types of the messages taken up in this tick. -/
  received : List MessageType
  /-- Types of the messages sent in this tick. -/
  emitted : List MessageType
  /-- Every message that was ever sent. -/
  sent : Array Message
  priority : Priority
  /-- How often the priority was changed. -/
  prioritizations : UInt32
  /-- How many attempts at telling others are left. -/
  budget : UInt32
  /-- The candidate that is being told. -/
  notifying : Option String
  roster : Roster
  /-- Every party that was ever brought into the case. -/
  introduced : Array Participant
  vulnerabilityId : Option String
  log : Array Snapshot
  tick : UInt64
  stream : RandomStream
  /-- What the operating system holds ready for new identifiers; the seed of a
  run has no part in it. -/
  identifiers : RandomStream
  arbiter : Arbiter

namespace ActorState

/-- An actor that has not heard of anything, with empty histories. -/
def new (name : String) (roles : Roles) (chance : Chance) : ActorState where
  name := name
  roles := roles
  abilities := .ofRoles roles
  report := .start
  embargo := .noEmbargo
  caseState := .initial
  reportHistory := []
  embargoHistory := []
  caseHistory := []
  inbox := []
  current := none
  received := []
  emitted := []
  sent := #[]
  priority := .defer
  prioritizations := 0
  budget := reportingBudget
  notifying := none
  roster := .empty
  introduced := #[]
  vulnerabilityId := none
  log := #[]
  tick := 0
  stream := chance.stream
  identifiers := chance.identifiers
  arbiter := .new .weighted

instance : Blackboard ActorState where
  random state := state.stream
  setRandom stream state := { state with stream }
  decide decision state :=
    let (outcome, arbiter, stream) :=
      state.arbiter.settle decision state.stream
    (outcome, { state with stream, arbiter })

/-- Have a decision settled. -/
def decide (decision : Decision) (state : ActorState) : Status × ActorState :=
  Blackboard.decide decision state

/-! ## Moves along the three axes -/

/-- Write the states of now at the end of the histories. -/
def recordStates (state : ActorState) : ActorState :=
  { state with
    reportHistory := state.reportHistory ++ [state.report]
    embargoHistory := state.embargoHistory ++ [state.embargo]
    caseHistory := state.caseHistory ++ [state.caseState] }

/-- Go to a state of report management; staying leaves no trace. -/
def moveReport (target : ReportState) (state : ActorState) : ActorState :=
  if state.report = target then state
  else
    { state with
      report := target, reportHistory := state.reportHistory ++ [target] }

/-- Go to a state of embargo management; staying leaves no trace. -/
def moveEmbargo (target : EmbargoState) (state : ActorState) : ActorState :=
  if state.embargo = target then state
  else
    { state with
      embargo := target, embargoHistory := state.embargoHistory ++ [target] }

/-- Go to a case state; staying leaves no trace. -/
def moveCase (target : CaseState) (state : ActorState) : ActorState :=
  if state.caseState = target then state
  else
    { state with
      caseState := target, caseHistory := state.caseHistory ++ [target] }

def setFlag (flag : CaseFlag) (state : ActorState) : ActorState :=
  state.moveCase (state.caseState.insert flag)

/-! ## Messages -/

/-- Put a message behind all that wait. -/
def deliver (message : Message) (state : ActorState) : ActorState :=
  { state with inbox := state.inbox ++ [message] }

def send (message : Message) (state : ActorState) : ActorState :=
  { state with
    emitted := state.emitted ++ [message.type]
    sent := state.sent.push message }

/-- The codes of some message types, with commas between them. -/
def codes (types : List MessageType) : String :=
  ",".intercalate (types.map MessageType.code)

/-- The state on one line: where it stands, the priority and how often it was
changed, the traffic of this tick, and how many parties and candidates there
are. -/
def line (state : ActorState) : String :=
  "|".intercalate
    [state.report.code, state.embargo.code, state.caseState.code,
     state.priority.name ++ ":" ++ toString state.prioritizations.toNat,
     "<" ++ codes state.received, ">" ++ codes state.emitted,
     toString state.roster.participants.length ++ "/"
       ++ toString state.roster.potential.length]

/-- The row of the log for now. -/
def snapshot (state : ActorState) : Snapshot where
  tick := state.tick
  report := state.report
  embargo := state.embargo
  caseState := state.caseState
  roles := state.roles
  received := state.received
  emitted := state.emitted

/-- Write a row of the log and begin a new record of the traffic. -/
def takeSnapshot (state : ActorState) : ActorState :=
  { state with
    log := state.log.push state.snapshot, received := [], emitted := [] }

end ActorState

end Disclosure
