import Disclosure.Proofs.Protocol.Logging
import Disclosure.Proofs.Simulation.Attention

/-!
# The log of an actor is complete

Whatever happens to an actor, its log has one row for each tick, with the states
in which the tick began.  The types of the messages that were sent stand in the
rows, and after them in the record of the traffic since the last tick.  So do the
types of the messages that were delivered, followed by those that wait, as long
as no decision is left open.
-/

namespace Disclosure

open ActorState

namespace Actor

/-! ## Incidents -/

/-- What can happen to an actor; others may send messages in its name. -/
inductive Incident where
  | deliver (message : Message)
  | tick
  | send (message : Message)

namespace Incident

def isTick : Incident → Bool
  | tick => true
  | _ => false

/-- The message that is delivered, if one is. -/
def delivered? : Incident → Option Message
  | deliver message => some message
  | _ => none

end Incident

/-- How often the actor ticks. -/
def ticks (incidents : List Incident) : Nat :=
  incidents.countP Incident.isTick

/-- The messages that are delivered, the oldest first. -/
def delivered (incidents : List Incident) : List Message :=
  incidents.filterMap Incident.delivered?

/-- The actor after an incident. -/
def meet (actor : Actor) : Incident → Actor
  | .deliver message => actor.deliver message
  | .tick => actor.tick.2
  | .send message => actor.modify (·.send message)

/-- The actor after several incidents, one after the other. -/
def meetAll (incidents : List Incident) (actor : Actor) : Actor :=
  incidents.foldl meet actor

end Actor

open Actor

/-! ## How a log goes on -/

namespace ActorState

variable {state before middle after : ActorState}

/-- The types of the messages that were sent stand in the rows of the log and in
the record of now. -/
def Balanced (state : ActorState) : Prop :=
  state.log.toList.flatMap Snapshot.emitted ++ state.emitted =
    state.sent.toList.map Message.type

/-- The types of all messages that were ever delivered: those that were heard,
and those that wait. -/
def arrived (state : ActorState) : List MessageType :=
  state.heard ++ state.inbox.map Message.type

/-- The log grows by one row for each tick.  What is sent goes into the log, and
so does what is delivered, if all was decided. -/
structure LogsOn (incidents : List Incident) (before after : ActorState) :
    Prop where
  log : before.log.toList <+: after.log.toList
  size : after.log.size = before.log.size + ticks incidents
  tick : after.tick = before.tick + .ofNat (ticks incidents)
  balanced : Balanced before → Balanced after
  decided : Decided after → Decided before
  arrived : Decided after → before.current = none →
    after.current = none ∧
      after.arrived = before.arrived ++ (delivered incidents).map Message.type

namespace LogsOn

theorem nothing (state : ActorState) : LogsOn [] state state where
  log := List.prefix_rfl
  size := rfl
  tick := (UInt64.add_zero _).symm
  balanced := id
  decided := id
  arrived _ free := ⟨free, (List.append_nil _).symm⟩

theorem trans {earlier later : List Incident}
    (first : LogsOn earlier before middle)
    (second : LogsOn later middle after) :
    LogsOn (earlier ++ later) before after where
  log := first.log.trans second.log
  size := by
    rw [second.size, first.size, ticks, ticks, ticks, List.countP_append,
      Nat.add_assoc]
  tick := by
    rw [second.tick, first.tick, ticks, ticks, ticks, List.countP_append,
      UInt64.ofNat_add, UInt64.add_assoc]
  balanced holds := second.balanced (first.balanced holds)
  decided decided := first.decided (second.decided decided)
  arrived decided free := by
    obtain ⟨freeThen, arrivedFirst⟩ :=
      first.arrived (second.decided decided) free
    obtain ⟨freeLast, arrivedThen⟩ := second.arrived decided freeThen
    refine ⟨freeLast, ?_⟩
    rw [arrivedThen, arrivedFirst, delivered, delivered, delivered,
      List.filterMap_append, List.map_append, List.append_assoc]

theorem deliver (message : Message) (state : ActorState) :
    LogsOn [.deliver message] state (state.deliver message) where
  log := List.prefix_rfl
  size := rfl
  tick := (UInt64.add_zero _).symm
  balanced := id
  decided := id
  arrived _ free := by
    refine ⟨free, ?_⟩
    simp only [ActorState.arrived, ActorState.deliver, List.map_append,
      ← List.append_assoc]
    rfl

theorem send (message : Message) (state : ActorState) :
    LogsOn [.send message] state (state.send message) where
  log := List.prefix_rfl
  size := rfl
  tick := (UInt64.add_zero _).symm
  balanced holds := by
    simp only [Balanced, ActorState.send, ← List.append_assoc,
      Array.toList_push, List.map_append] at holds ⊢
    rw [holds]
    rfl
  decided := id
  arrived _ free := ⟨free, (List.append_nil _).symm⟩

/-- A tick begins with a row of the log, and notes what it does after that. -/
theorem of_notes
    (notes : Notes before.clocked.takeSnapshot after)
    (receives : Decided after → before.current = none →
      Behavior.Receives before.clocked.takeSnapshot after) :
    LogsOn [.tick] before after := by
  have log : after.log = before.log.push before.clocked.snapshot := notes.log
  constructor
  case log =>
    rw [log, Array.toList_push]
    exact List.prefix_append _ _
  case size =>
    rw [log, Array.size_push]
    rfl
  case tick => exact notes.tick
  case balanced =>
    intro holds
    obtain ⟨types, emitted, sent⟩ := notes.emitted
    have fresh : before.clocked.takeSnapshot.emitted = [] := rfl
    have same : before.clocked.takeSnapshot.sent = before.sent := rfl
    have row : before.clocked.snapshot.emitted = before.emitted := rfl
    rw [fresh, List.nil_append] at emitted
    rw [same, ← holds] at sent
    rw [Balanced, sent, log, Array.toList_push, List.flatMap_append,
      List.flatMap_singleton, row, emitted]
  case decided => exact notes.decided
  case arrived =>
    intro decided free
    obtain ⟨freeStill, gone, inbox, received⟩ := receives decided free
    have fresh : before.clocked.takeSnapshot.received = [] := rfl
    have same : before.clocked.takeSnapshot.inbox = before.inbox := rfl
    have row : before.clocked.snapshot.received = before.received := rfl
    rw [fresh, List.nil_append] at received
    rw [same] at inbox
    refine ⟨freeStill, ?_⟩
    rw [ActorState.arrived, ActorState.arrived, heard, heard, log,
      Array.toList_push, List.flatMap_append, List.flatMap_singleton, row,
      received, inbox, List.map_append]
    simp [delivered, Incident.delivered?]

end LogsOn

end ActorState

/-! ## Runs -/

namespace Actor

variable {actor : Actor}

/-- A tick writes the row of its beginning and logs on. -/
theorem Live.tick_logsOn (live : actor.Live) :
    actor.tick.2.Live ∧ LogsOn [.tick] actor.state actor.tick.2.state ∧
      actor.tick.2.state.log =
        actor.state.log.push actor.state.clocked.snapshot := by
  obtain ⟨stillLive, _, notes, receives⟩ :=
    live.tick_of_ensures (Behavior.ensures_notes actor.inbox_lt_bound)
  exact ⟨stillLive, .of_notes notes receives, notes.log⟩

theorem Live.meet_logsOn (live : actor.Live) (incident : Incident) :
    (actor.meet incident).Live ∧
      LogsOn [incident] actor.state (actor.meet incident).state := by
  cases incident with
  | deliver message => exact ⟨live, .deliver message actor.state⟩
  | tick => exact ⟨live.tick_logsOn.1, live.tick_logsOn.2.1⟩
  | send message => exact ⟨live, .send message actor.state⟩

theorem Live.meetAll_logsOn (live : actor.Live) (incidents : List Incident) :
    (actor.meetAll incidents).Live ∧
      LogsOn incidents actor.state (actor.meetAll incidents).state := by
  induction incidents generalizing actor with
  | nil => exact ⟨live, .nothing actor.state⟩
  | cons incident incidents ih =>
    obtain ⟨liveThen, first⟩ := live.meet_logsOn incident
    obtain ⟨liveLast, rest⟩ := ih liveThen
    exact ⟨liveLast, first.trans rest⟩

/-- The row of a tick stays where the tick has written it. -/
theorem Live.row_of_tick (live : actor.Live) (before after : List Incident) :
    (actor.meetAll (before ++ .tick :: after)).state.log[
        (actor.meetAll before).state.log.size]? =
      some (actor.meetAll before).state.clocked.snapshot := by
  obtain ⟨liveThen, _⟩ := live.meetAll_logsOn before
  obtain ⟨liveNext, _, written⟩ := liveThen.tick_logsOn
  obtain ⟨_, later⟩ := liveNext.meetAll_logsOn after
  have last : actor.meetAll (before ++ .tick :: after) =
      (actor.meetAll before).tick.2.meetAll after := by
    rw [meetAll, List.foldl_append]
    rfl
  rcases later.log with ⟨rows, longer⟩
  rw [last, ← Array.getElem?_toList, ← longer, written, Array.toList_push,
    List.append_assoc, ← Array.length_toList,
    List.getElem?_append_right (Nat.le_refl _), Nat.sub_self]
  rfl

end Actor

/--
The log of an actor is complete, whatever is delivered to a new actor, is sent in
its name and is decided, and whenever it ticks.  There is one row for each tick,
with its number and the states in which it began.  The types of the messages that
were sent are those in the rows, followed by those of now; and the types of the
messages that were delivered are those in the rows, followed by those of now and
those in the inbox, if no decision was left open.
-/
theorem log_is_complete
    (name : String)
    (roles : Roles)
    (abilities : Capabilities)
    (chance : Chance)
    (policy : Policy)
    (incidents : List Incident) :
    ∃ actor, Actor.start name roles abilities chance policy = .ok actor ∧
      (actor.meetAll incidents).state.log.size = ticks incidents ∧
      (∀ before after, incidents = before ++ .tick :: after →
        ∃ row,
          (actor.meetAll incidents).state.log[ticks before]? = some row ∧
          row.tick = .ofNat (ticks before + 1) ∧
          row.report = (actor.meetAll before).state.report ∧
          row.embargo = (actor.meetAll before).state.embargo ∧
          row.caseState = (actor.meetAll before).state.caseState) ∧
      (actor.meetAll incidents).state.log.toList.flatMap Snapshot.emitted ++
          (actor.meetAll incidents).state.emitted =
        (actor.meetAll incidents).state.sent.toList.map Message.type ∧
      ((∀ answer ∈ (actor.meetAll incidents).state.arbiter.record,
          answer.outcome ≠ .running) →
        (actor.meetAll incidents).state.log.toList.flatMap
              Snapshot.received ++
            (actor.meetAll incidents).state.received ++
            (actor.meetAll incidents).state.inbox.map Message.type =
          (delivered incidents).map Message.type) := by
  obtain ⟨actor, started, live, begins⟩ :=
    Actor.exists_start name roles abilities chance policy
  obtain ⟨_, logged⟩ := live.meetAll_logsOn incidents
  have empty : ∀ {incidents : List Incident} {after : ActorState},
      LogsOn incidents actor.state after →
        after.log.size = ticks incidents ∧
          after.tick = .ofNat (ticks incidents) := by
    intro incidents after logged
    have size := logged.size
    have tick := logged.tick
    rw [begins] at size tick
    exact ⟨size.trans (Nat.zero_add _), tick.trans (UInt64.zero_add _)⟩
  refine ⟨actor, started, (empty logged).1, ?_, ?_, ?_⟩
  · rintro before after rfl
    obtain ⟨_, loggedBefore⟩ := live.meetAll_logsOn before
    obtain ⟨size, tick⟩ := empty loggedBefore
    have row := live.row_of_tick before after
    rw [size] at row
    refine ⟨_, row, ?_, rfl, rfl, rfl⟩
    rw [UInt64.ofNat_add, ← tick]
    rfl
  · apply logged.balanced
    rw [begins]
    rfl
  · intro decided
    have arrived := (logged.arrived decided (by rw [begins]; rfl)).2
    rw [begins] at arrived
    exact arrived

/-- Messages come before, between and after two ticks, and one is sent. -/
def visits : List Incident :=
  [.deliver (.broadcast .reportSubmission "finder"),
   .send (.broadcast .inquiry "vendor"), .tick,
   .deliver (.broadcast .embargoProposal "finder"), .tick,
   .deliver (.broadcast .inquiry "finder")]

/-- A vendor that takes every decision. -/
def startOfAgreeable : Except BuildError Actor :=
  Actor.start "vendor" (.ofList [.vendor]) (.ofRoles (.ofList [.vendor]))
    (.ofSeed 0) .agreeable

theorem visits_decided :
    startOfAgreeable.toOption.map (fun actor =>
        (actor.meetAll visits).state.arbiter.record.all
          fun answer => decide (answer.outcome ≠ .running)) =
      some true := by
  decide +kernel

theorem log_is_complete_of_vendor :
    ∃ actor, startOfAgreeable = .ok actor ∧
      (∀ answer ∈ (actor.meetAll visits).state.arbiter.record,
        answer.outcome ≠ .running) ∧
      (actor.meetAll visits).state.log.size = 2 ∧
      (actor.meetAll visits).state.log.toList.flatMap Snapshot.received ++
            (actor.meetAll visits).state.received ++
          (actor.meetAll visits).state.inbox.map Message.type =
        [.reportSubmission, .embargoProposal, .inquiry] := by
  obtain ⟨actor, started, size, _, _, arrived⟩ := log_is_complete "vendor"
    (.ofList [.vendor]) (.ofRoles (.ofList [.vendor])) (.ofSeed 0) .agreeable
    visits
  have decides := visits_decided
  rw [startOfAgreeable, started] at decides
  have decided : ∀ answer ∈ (actor.meetAll visits).state.arbiter.record,
      answer.outcome ≠ .running := by
    intro answer among
    have all := Array.all_eq_true_iff_forall_mem.mp (Option.some.inj decides)
    exact of_decide_eq_true (all answer among)
  exact ⟨actor, started, decided, size, arrived decided⟩

end Disclosure
