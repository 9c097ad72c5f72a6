import Disclosure.Proofs.Protocol.Listening
import Disclosure.Proofs.Protocol.Posting
import Disclosure.Proofs.Simulation.LockStep
import Disclosure.Proofs.Simulation.Routing

/-!
# Attentive members

Where decisions are made by their weights, a member of a case goes through all of
its mail whenever it ticks, and what it sends carries its own name.  So do the
newcomers, from the first round after they have joined.
-/

namespace Disclosure

namespace ActorState

/-- The types of all messages that were ever taken up: those in the rows of the
log, and then those of now. -/
def heard (state : ActorState) : List MessageType :=
  state.log.toList.flatMap Snapshot.received ++ state.received

/-- A new row of the log holds what was heard so far. -/
theorem heard_of_desk {before after : ActorState} {types : List MessageType}
    (office : after.office = before.takeSnapshot.office)
    (desk : after.desk = ([], none, types)) :
    after.heard = before.heard ++ types := by
  have log : after.log = before.takeSnapshot.log :=
    congrArg (fun office => office.2.2.2.2.1) office
  have received : after.received = types :=
    congrArg (fun desk => desk.2.2) desk
  simp only [heard, log, received, takeSnapshot, Array.toList_push,
    List.flatMap_append, List.flatMap_singleton]
  rfl

/-- Decisions are made by their weights, and nothing is in hand. -/
structure Attentive (state : ActorState) : Prop where
  weighted : state.arbiter.policy = .weighted
  free : state.current = none

end ActorState

open ActorState

/-- All mail of before was gone through. -/
structure ActorState.Listened (before after : ActorState) : Prop
    extends Attentive after where
  name : after.name = before.name
  inbox : after.inbox = []
  heard : after.heard = before.heard ++ before.inbox.map Message.type
  signs : ∃ messages, Signs messages before after

/-- An attentive actor that is open goes through all of its mail in a tick. -/
theorem Actor.Live.tick_listened {actor : Actor}
    (live : actor.Live)
    (attentive : Attentive actor.state)
    (opened : ¬ actor.isClosed) :
    actor.tick.2.Live ∧ Listened actor.state actor.tick.2.state := by
  have report : actor.state.report ≠ .closed := by
    simpa [isClosed] using opened
  obtain ⟨stillLive, _, office, desk⟩ := live.tick_of_ensures
    (Behavior.ensures_listening (by exact attentive.weighted) report
      attentive.free actor.inbox_lt_bound)
  have heard : actor.tick.2.state.heard = actor.state.clocked.heard ++
      actor.state.clocked.inbox.map Message.type :=
    heard_of_desk office desk
  rcases live.tick.2.signs with ⟨messages, signs⟩
  refine ⟨stillLive, ?_⟩
  exact {
    weighted :=
      (congrArg (fun office => office.2.2.2.1) office).trans
        attentive.weighted
    free := congrArg (fun desk => desk.2.1) desk
    name := congrArg Prod.fst office
    inbox := congrArg Prod.fst desk
    heard := heard
    signs := ⟨messages, signs.name, signs.sent, signs.signed⟩ }

namespace Member

/-- An attentive member that goes by its address and rests once it is closed. -/
structure Ready (member : Member) : Prop where
  live : member.actor.Live
  attentive : Attentive member.actor.state
  named : member.actor.name = member.address
  rests : member.actor.isClosed = true → member.actor.state.inbox = []

/-- A member that has not got any mail. -/
structure Fresh (member : Member) : Prop extends Ready member where
  inbox : member.actor.state.inbox = []
  heard : member.actor.state.heard = []

/-- Some member after its tick. -/
structure Ticks (before after : Member) : Prop extends Ready after where
  address : after.address = before.address
  inbox : after.actor.state.inbox = []
  heard : after.actor.state.heard =
    before.actor.state.heard ++
      before.actor.state.inbox.map Message.type

/-- A closed member rests, and any other goes through all of its mail. -/
theorem Ready.tick {member : Member} (ready : member.Ready) :
    ∃ after, (LockStep.tickMember member).members = [after] ∧
      member.Ticks after ∧
      ∀ message ∈ (LockStep.tickMember member).sent,
        message.sender = member.address := by
  rw [LockStep.tickMember]
  split
  next closed =>
    have nothing := ready.rests closed
    refine ⟨member, rfl, ?_, by simp⟩
    exact {
      toReady := ready
      address := rfl
      inbox := nothing
      heard := by rw [nothing, List.map_nil, List.append_nil] }
  next opened =>
    obtain ⟨live, listened⟩ :=
      ready.live.tick_listened ready.attentive opened
    rcases listened.signs with ⟨messages, signs⟩
    refine ⟨_, rfl, ?_, ?_⟩
    · exact {
        live := live
        attentive := ⟨listened.weighted, listened.free⟩
        named := listened.name.trans ready.named
        rests := fun _ => listened.inbox
        address := rfl
        inbox := listened.inbox
        heard := listened.heard }
    · have sent : (member.actor.tick.2.state.sent.toList.drop
          member.actor.state.sent.size) = messages := by
        rw [signs.sent, ← Array.length_toList, List.drop_left]
      intro message among
      have listed : message ∈ messages := sent ▸ among
      exact (signs.signed message listed).trans ready.named

/-- Mail that arrives does not distract from it. -/
theorem Ready.collect {member : Member} (ready : member.Ready)
    (messages : List Message) :
    (member.collect messages).Ready where
  live := by
    rw [Member.collect, receive_eq]
    exact ready.live
  attentive := by
    rw [Member.collect, receive_eq]
    exact ⟨ready.attentive.weighted, ready.attentive.free⟩
  named := by
    rw [name_collect, address_collect]
    exact ready.named
  rests closed := by
    rw [isClosed_collect] at closed
    rw [collect_of_closed closed]
    exact ready.rests closed

/-- Chance has nothing to do with the mail of a member. -/
theorem redraw_mail (chance : Option Chance) (member : Member) :
    (member.redraw chance).address = member.address ∧
      (member.redraw chance).actor.state.inbox = member.actor.state.inbox ∧
      (member.redraw chance).actor.state.heard =
        member.actor.state.heard := by
  cases chance with
  | none | some => exact ⟨rfl, rfl, rfl⟩

theorem Ready.redraw {member : Member} (ready : member.Ready)
    (chance : Option Chance) :
    (member.redraw chance).Ready := by
  cases chance with
  | none => exact ready
  | some =>
    exact ⟨ready.live, ⟨ready.attentive.weighted, ready.attentive.free⟩,
      ready.named, ready.rests⟩

end Member

namespace LockStep

/-! ## Lists of members -/

section Pairs

variable {α : Type} {items : List α} {members : List Member}
  {relation : α → Member → Prop}

theorem addresses_of_pairs {name : α → String}
    (named : ∀ item member, relation item member → member.address = name item)
    (pairs : List.Forall₂ relation items members) :
    members.map Member.address = items.map name := by
  induction pairs with
  | nil => rfl
  | cons first _ ih =>
    rw [List.map_cons, List.map_cons, named _ _ first, ih]

theorem exists_of_pairs {member : Member}
    (pairs : List.Forall₂ relation items members)
    (among : member ∈ members) :
    ∃ item ∈ items, relation item member := by
  rcases List.mem_iff_getElem.mp among with ⟨number, inside, rfl⟩
  have insideToo : number < items.length := pairs.length_eq ▸ inside
  exact ⟨_, List.getElem_mem insideToo, pairs.get insideToo inside⟩

end Pairs

/-! ## Joining -/

/-- Who has just joined has not got any mail, whatever it was told. -/
theorem Begins.fresh {name : String} {roles : Roles}
    {prepare : ActorState → ActorState} {member : Member}
    (begins : Begins name roles prepare member)
    (keepsOffice : ∀ state, (prepare state).office = state.office)
    (keepsDesk : ∀ state, (prepare state).desk = state.desk) :
    member.Fresh := by
  rcases begins with ⟨live, address, chance, state⟩
  have office := congrArg ActorState.office state
  have desk := congrArg ActorState.desk state
  rw [keepsOffice] at office
  rw [keepsDesk] at desk
  injection office with named office
  have inbox : member.actor.state.inbox = [] := congrArg Prod.fst desk
  exact {
    live := live
    attentive := {
      weighted := congrArg (fun office => office.2.2.1) office
      free := congrArg (fun desk => desk.2.1) desk }
    named := named.trans address.symm
    rests := fun _ => inbox
    inbox := inbox
    heard := by
      have log : member.actor.state.log = #[] :=
        congrArg (fun office => office.2.2.2.1) office
      have received : member.actor.state.received = [] :=
        congrArg (fun desk => desk.2.2) desk
      rw [heard, log, received]
      rfl }

theorem Founds.fresh {enrollment : Enrollment} {member : Member}
    (founds : Founds enrollment member) :
    member.Fresh :=
  Begins.fresh founds (fun _ => rfl) fun _ => rfl

theorem Joins.fresh {record : Participant} {member : Member}
    (joins : Joins record member) :
    member.Fresh := by
  refine Begins.fresh joins (fun state => ?_) fun state => ?_
  · rw [moveCase_eq, moveEmbargo_eq]
    rfl
  · rw [moveCase_eq, moveEmbargo_eq]
    rfl

end LockStep

end Disclosure
