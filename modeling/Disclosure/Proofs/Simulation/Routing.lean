import Disclosure.Simulation.LockStep
import Mathlib.Data.List.Nodup

/-!
# Routing as a filter

When the members of a case have different addresses and go by them, to route
some messages is the same for every member: one that has closed the report gets
nothing, and any other gets, behind the mail that it has, those of the messages
that are for it.
-/

namespace Disclosure

/-- It is addressed to this name, or broadcast under another one. -/
def Message.isFor (address : String) (message : Message) : Bool :=
  match message.recipient with
  | some recipient => recipient == address
  | none => message.sender != address

namespace Member

/-- The member with some messages behind those that wait, unless it is closed. -/
def receive (mail : List Message) (member : Member) : Member :=
  if member.actor.isClosed then member
  else
    { member with
      actor := member.actor.modify fun state =>
        { state with inbox := state.inbox ++ mail } }

/-- The member after some messages were routed, as far as they are for it. -/
def collect (messages : List Message) (member : Member) : Member :=
  member.receive (messages.filter (Message.isFor member.address))

/-- What is for the member is in its inbox, and nothing else has changed. -/
theorem receive_eq (mail : List Message) (member : Member) :
    member.receive mail =
      { member with
        actor := member.actor.modify fun state =>
          { state with
            inbox :=
              state.inbox ++ if member.actor.isClosed then [] else mail } } := by
  rw [receive]
  split
  · simp only [List.append_nil]
    rfl
  · rfl

@[simp]
theorem receive_nil (member : Member) : member.receive [] = member := by
  rw [receive_eq, ite_self]
  simp only [List.append_nil]
  rfl

theorem receive_append (earlier later : List Message) (member : Member) :
    (member.receive earlier).receive later =
      member.receive (earlier ++ later) := by
  by_cases closed : member.actor.isClosed
  · have stays : ∀ mail, member.receive mail = member := fun mail => by
      rw [receive, if_pos closed]
    rw [stays, stays, stays]
  · have stillOpen : ¬ (member.receive earlier).actor.isClosed := by
      rw [receive_eq]
      exact closed
    rw [receive, if_neg stillOpen, receive, if_neg closed, receive,
      if_neg closed]
    simp only [Actor.modify, BehaviorTree.modify, List.append_assoc]

theorem receive_single {message : Message} {member : Member}
    (opened : ¬ member.actor.isClosed) :
    member.receive [message] =
      { member with actor := member.actor.deliver message } := by
  rw [receive, if_neg opened]
  rfl

@[simp]
theorem address_collect (messages : List Message) (member : Member) :
    (member.collect messages).address = member.address := by
  rw [collect, receive_eq]

@[simp]
theorem name_collect (messages : List Message) (member : Member) :
    (member.collect messages).actor.name = member.actor.name := by
  rw [collect, receive_eq]
  rfl

@[simp]
theorem isClosed_collect (messages : List Message) (member : Member) :
    (member.collect messages).actor.isClosed = member.actor.isClosed := by
  rw [collect, receive_eq]
  rfl

theorem collect_cons (message : Message) (messages : List Message)
    (member : Member) :
    (member.collect [message]).collect messages =
      member.collect (message :: messages) := by
  rw [collect, address_collect, collect, receive_append, collect,
    ← List.filter_append]
  rfl

theorem collect_single_of_isFor {message : Message} {member : Member}
    (addressed : message.isFor member.address = true)
    (opened : ¬ member.actor.isClosed) :
    member.collect [message] =
      { member with actor := member.actor.deliver message } := by
  rw [collect, List.filter_cons_of_pos addressed]
  exact receive_single opened

theorem collect_single_of_not_isFor {message : Message} {member : Member}
    (other : message.isFor member.address ≠ true) :
    member.collect [message] = member := by
  rw [collect, List.filter_cons_of_neg other]
  exact receive_nil member

theorem collect_of_closed {messages : List Message} {member : Member}
    (closed : member.actor.isClosed = true) :
    member.collect messages = member := by
  rw [collect, receive, if_pos closed]

end Member

namespace LockStep

/-- Each member goes by an address of its own. -/
structure Orderly (members : List Member) : Prop where
  distinct : (members.map Member.address).Nodup
  named : ∀ member ∈ members, member.actor.name = member.address

variable {members : List Member} {address : String}

theorem map_eq_self {change : Member → Member}
    (stays : ∀ member ∈ members, change member = member) :
    members.map change = members :=
  (List.map_congr_left stays).trans (List.map_id members)

/-- No two members have one address. -/
theorem Orderly.eq_of_address (orderly : Orderly members)
    {member other : Member}
    (among : member ∈ members)
    (amongToo : other ∈ members)
    (same : member.address = other.address) :
    member = other :=
  List.inj_on_of_nodup_map orderly.distinct among amongToo same

theorem Orderly.collect (orderly : Orderly members)
    (messages : List Message) :
    Orderly (members.map (Member.collect messages)) := by
  constructor
  · simpa [Function.comp_def] using orderly.distinct
  · intro member among
    rcases List.mem_map.mp among with ⟨before, amongBefore, rfl⟩
    rw [Member.name_collect, Member.address_collect]
    exact orderly.named before amongBefore

theorem knows_iff {lockStep : LockStep} :
    lockStep.knows address = true ↔
      address ∈ lockStep.members.map Member.address := by
  simp [knows]

/-- Members with addresses that are not known may join. -/
theorem Orderly.append {lockStep : LockStep} {fresh : List Member}
    (orderly : Orderly lockStep.members)
    (named : ∀ member ∈ fresh, member.actor.name = member.address)
    (distinct : (fresh.map Member.address).Nodup)
    (unknown : ∀ member ∈ fresh, lockStep.knows member.address = false) :
    Orderly (lockStep.members ++ fresh) := by
  constructor
  · rw [List.map_append, List.nodup_append]
    refine ⟨orderly.distinct, distinct, ?_⟩
    rintro known listed new among rfl
    rcases List.mem_map.mp among with ⟨member, joined, rfl⟩
    have absent := unknown member joined
    rw [knows_iff.mpr listed] at absent
    cases absent
  · intro member among
    rcases List.mem_append.mp among with before | joined
    · exact orderly.named member before
    · exact named member joined

/-! ## One message -/

/-- The last member of an address is the only one. -/
theorem modifyLast_eq
    (distinct : (members.map Member.address).Nodup)
    (change : Actor → Actor) :
    modifyLast address change members =
      members.map fun member =>
        if member.address = address then
          { member with actor := change member.actor }
        else member := by
  induction members with
  | nil => rfl
  | cons member members ih =>
    rcases List.nodup_cons.mp distinct with ⟨fresh, distinctRest⟩
    by_cases here : member.address = address
    · have absent : ∀ other ∈ members, other.address ≠ address := by
        intro other among same
        exact fresh (List.mem_map.mpr ⟨other, among, same.trans here.symm⟩)
      have last : (!members.any fun other => other.address == address) =
          true := by
        simpa using absent
      have rest : (members.map fun other =>
          if other.address = address then
            { other with actor := change other.actor }
          else other) = members :=
        map_eq_self fun other among => if_neg (absent other among)
      rw [modifyLast, if_pos ⟨here, last⟩, List.map_cons, if_pos here, rest]
    · rw [modifyLast, if_neg (fun both => here both.1), List.map_cons,
        if_neg here, ih distinctRest]

/-- The member that is found under an address is the one that has it. -/
theorem actor?_spec (lockStep : LockStep) (address : String) :
    match lockStep.actor? address with
    | some actor =>
      ∃ member ∈ lockStep.members,
        member.address = address ∧ member.actor = actor
    | none => ∀ member ∈ lockStep.members, member.address ≠ address := by
  rw [actor?]
  cases found : lockStep.members.reverse.find? fun member =>
      member.address == address with
  | some member =>
    have among := List.mem_reverse.mp (List.mem_of_find?_eq_some found)
    exact ⟨member, among, by simpa using List.find?_some found, rfl⟩
  | none =>
    intro member among
    have other := List.find?_eq_none.mp found member
      (List.mem_reverse.mpr among)
    simpa using other

theorem routeToAll_members {message : Message}
    (broadcast : message.recipient = none)
    (named : ∀ member ∈ members, member.actor.name = member.address) :
    (routeToAll message members).1 =
      members.map (Member.collect [message]) := by
  induction members with
  | nil => rfl
  | cons member members ih =>
    have rest := ih fun other among => named other (by simp [among])
    have isFor : message.isFor member.address =
        (message.sender != member.address) := by
      rw [Message.isFor, broadcast]
    have name := named member (by simp)
    simp only [routeToAll, List.map_cons]
    split
    next own =>
      have other : message.isFor member.address ≠ true := by
        simp [isFor, ← own, name]
      rw [Member.collect_single_of_not_isFor other, rest]
    next foreign =>
      split
      next closed => rw [Member.collect_of_closed closed, rest]
      next opened =>
        have addressed : message.isFor member.address = true := by
          rw [isFor, bne_iff_ne, ← name]
          exact Ne.symm foreign
        rw [Member.collect_single_of_isFor addressed opened, rest]

/-- To route a message is to let everybody collect what is for it. -/
theorem route_members {lockStep : LockStep}
    (orderly : Orderly lockStep.members)
    (message : Message) :
    (lockStep.route message).members =
      lockStep.members.map (Member.collect [message]) := by
  rw [route]
  split
  next recipient addressed =>
    have isFor : ∀ member : Member,
        message.isFor member.address = (recipient == member.address) := by
      intro member
      rw [Message.isFor, addressed]
    have stays : ∀ member ∈ lockStep.members,
        (member.address = recipient → member.actor.isClosed = true) →
          Member.collect [message] member = member := by
      intro member _ closed
      by_cases same : member.address = recipient
      · exact Member.collect_of_closed (closed same)
      · refine Member.collect_single_of_not_isFor ?_
        simpa [isFor] using Ne.symm same
    have spec := lockStep.actor?_spec recipient
    split
    next unknown =>
      rw [unknown] at spec
      refine (map_eq_self fun member among => ?_).symm
      exact stays member among fun same => (spec member among same).elim
    next actor known =>
      rw [known] at spec
      rcases spec with ⟨owner, among, owns, rfl⟩
      have only : ∀ member ∈ lockStep.members,
          member.address = recipient → member = owner :=
        fun member listed same =>
          orderly.eq_of_address listed among (same.trans owns.symm)
      split
      next closed =>
        refine (map_eq_self fun member listed => ?_).symm
        refine stays member listed fun same => ?_
        rw [only member listed same]
        exact closed
      next opened =>
        refine (modifyLast_eq orderly.distinct _).trans ?_
        refine List.map_congr_left fun member listed => ?_
        split
        next same =>
          cases only member listed same
          refine (Member.collect_single_of_isFor ?_ opened).symm
          simpa [isFor] using same.symm
        next other =>
          exact (stays member listed fun same => (other same).elim).symm
  next broadcast => exact routeToAll_members broadcast orderly.named

/-- Routing leaves nothing behind. -/
theorem route_outbox (lockStep : LockStep) (message : Message) :
    (lockStep.route message).outbox = lockStep.outbox := by
  rw [route]
  split
  · split
    · rfl
    · split
      · rfl
      · rfl
  · rfl

/-! ## Many messages -/

/-- So it is with any number of messages, one after the other. -/
theorem foldl_route {lockStep : LockStep}
    (orderly : Orderly lockStep.members)
    (messages : List Message) :
    (messages.foldl route lockStep).members =
        lockStep.members.map (Member.collect messages) ∧
      (messages.foldl route lockStep).outbox = lockStep.outbox := by
  induction messages generalizing lockStep with
  | nil =>
    refine ⟨?_, rfl⟩
    exact (map_eq_self fun member _ => member.receive_nil).symm
  | cons message messages ih =>
    have first := route_members orderly message
    have orderlyThen : Orderly (lockStep.route message).members :=
      first ▸ orderly.collect [message]
    rcases ih orderlyThen with ⟨rest, sameOutbox⟩
    rw [List.foldl_cons, rest, sameOutbox, route_outbox, first,
      List.map_map]
    refine ⟨List.map_congr_left fun member _ => ?_, rfl⟩
    exact Member.collect_cons message messages member

end LockStep

end Disclosure
