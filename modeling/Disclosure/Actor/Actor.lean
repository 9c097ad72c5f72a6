import Disclosure.Protocol.Root
import Disclosure.Tree.Live
import Disclosure.Tree.Render

/-!
# Actors

An actor is its state together with a protocol tree of its own.  It can be given
messages, and with every tick it goes through the protocol once.
-/

namespace Disclosure

/-- A protocol tree at work on the state of an actor. -/
structure Actor where
  tree : BehaviorTree Unit ActorState

namespace Actor

/-- The built tree of the protocol, the same one for every actor. -/
def protocolTree : Except BuildError (Node Unit ActorState) :=
  Behavior.protocolRoot.build

/-- A new actor that has not heard of anything, its histories begun. -/
def new (name : String) (roles : Roles) (chance : Chance) :
    Except BuildError Actor := do
  let node ← protocolTree
  return ⟨.ofNode node (ActorState.new name roles chance).recordStates⟩

/-- The state of the actor. -/
def state (actor : Actor) : ActorState := actor.tree.board

/-- Change the state between ticks. -/
def modify (change : ActorState → ActorState) (actor : Actor) : Actor :=
  ⟨actor.tree.modify change⟩

def name (actor : Actor) : String := actor.state.name

/-- Whether the report of the actor is closed. -/
def isClosed (actor : Actor) : Bool := actor.state.report == .closed

/-- Put a message behind all that wait. -/
def deliver (message : Message) (actor : Actor) : Actor :=
  actor.modify (·.deliver message)

/--
Go through the protocol once.  The loop over the inbox takes up each message
once and then finds it empty, so its bound is never reached.
-/
def tick (actor : Actor) : Status × Actor :=
  let actor := actor.modify fun state => { state with tick := state.tick + 1 }
  match actor.tree.tick (actor.state.inbox.length + 2) with
  | .ok (status, tree) => (status, ⟨tree⟩)
  | .error _ => (.running, actor)

/-- Tick up to so many times, until the report is closed; counts the ticks from
`taken`. -/
def runFrom (taken : Nat) : Nat → Actor → Nat × Actor
  | 0, actor => (taken, actor)
  | ticks + 1, actor =>
    if actor.isClosed then (taken, actor)
    else runFrom (taken + 1) ticks actor.tick.2

/-- Tick up to so many times, until the report is closed; counts the ticks. -/
def runUntilClosed (ticks : Nat) (actor : Actor) : Nat × Actor :=
  actor.runFrom 0 ticks

/-- The indented outline of the tree. -/
def render (actor : Actor) : String := actor.tree.root.node.toText

/-- Take over the embargo and the case state that a newcomer was told. -/
def adopt (told : Participant) (actor : Actor) : Actor :=
  actor.modify fun state =>
    (state.moveEmbargo told.embargo).moveCase told.state

end Actor

/-- What there is to say about an actor at the end of a run. -/
structure Summary where
  name : String
  roles : Roles
  ticks : UInt64
  closed : Bool
  report : ReportState
  embargo : EmbargoState
  caseState : CaseState
  priority : Priority
  vulnerabilityId : Option String
  reportHistory : List ReportState
  embargoHistory : List EmbargoState
  caseHistory : List CaseState
  messagesSent : UInt64
  participants : List String
  deriving DecidableEq, Repr

namespace Summary

def columns : List String :=
  ["name", "role", "ticks", "closed", "q_rm", "q_em", "q_cs", "priority",
   "vul_id", "q_rm_history", "q_em_history", "q_cs_history", "messages_sent",
   "participants"]

def toJson (summary : Summary) : Json :=
  .record
    ([("name", .text summary.name),
      ("role", summary.roles.toJson),
      ("ticks", .nat summary.ticks.toNat),
      ("closed", .bool summary.closed),
      ("q_rm", summary.report.toJson),
      ("q_em", summary.embargo.toJson),
      ("q_cs", summary.caseState.toJson),
      ("priority", summary.priority.toJson)]
    ++ (summary.vulnerabilityId.map fun id => ("vul_id", .text id)).toList
    ++ [("q_rm_history", .list (summary.reportHistory.map ReportState.toJson)),
        ("q_em_history", .list (summary.embargoHistory.map EmbargoState.toJson)),
        ("q_cs_history", .list (summary.caseHistory.map CaseState.toJson)),
        ("messages_sent", .nat summary.messagesSent.toNat),
        ("participants", .list (summary.participants.map .text))])

/-- Reads the JSON form; an identifier may be missing. -/
def ofJson? (value : Json) : Option Summary := do
  match ← value.columns? columns with
  | [some name, some roles, some ticks, some closed, some report, some embargo,
      some caseState, some priority, identifier, some reportHistory,
      some embargoHistory, some caseHistory, some messagesSent,
      some participants] =>
    return {
      name := ← name.text?
      roles := ← Roles.ofJson? roles
      ticks := ← ticks.uint64?
      closed := ← closed.bool?
      report := ← ReportState.ofJson? report
      embargo := ← EmbargoState.ofJson? embargo
      caseState := ← CaseState.ofJson? caseState
      priority := ← Priority.ofJson? priority
      vulnerabilityId := ← Json.optional? Json.text? identifier
      reportHistory := ← reportHistory.listOf? ReportState.ofJson?
      embargoHistory := ← embargoHistory.listOf? EmbargoState.ofJson?
      caseHistory := ← caseHistory.listOf? CaseState.ofJson?
      messagesSent := ← messagesSent.uint64?
      participants := ← participants.listOf? Json.text? }
  | _ => failure

end Summary

namespace Actor

/-- The summary of an actor. -/
def summary (actor : Actor) : Summary :=
  let state := actor.state
  { name := state.name
    roles := state.roles
    ticks := state.tick
    closed := actor.isClosed
    report := state.report
    embargo := state.embargo
    caseState := state.caseState
    priority := state.priority
    vulnerabilityId := state.vulnerabilityId
    reportHistory := state.reportHistory
    embargoHistory := state.embargoHistory
    caseHistory := state.caseHistory
    messagesSent := state.sent.size.toUInt64
    participants := state.roster.participants.map Participant.name }

end Actor

end Disclosure
