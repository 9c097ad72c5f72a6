import Disclosure.Proofs.Simulation.Routing
import Mathlib.Algebra.BigOperators.Group.List.Basic
import Mathlib.Algebra.Ring.Nat

/-!
# Every copy is counted

A message to one party is one copy, and a broadcast is a copy for everybody but its
sender.  Each copy is either delivered or dropped, provided that the sender and the
recipient of the message are in the case.
-/

namespace Disclosure

/-- How many copies of a message there are in a case of some size. -/
def Message.copies (size : Nat) (message : Message) : Nat :=
  if message.isBroadcast then size - 1 else 1

namespace LockStep

variable {lockStep : LockStep} {members : List Member} {message : Message}

/-- The sender of the message is in the case, and so is the recipient if there is
one. -/
structure Routable (lockStep : LockStep) (message : Message) : Prop where
  sender : lockStep.knows message.sender = true
  recipient : ∀ recipient, message.recipient = some recipient →
    lockStep.knows recipient = true

/-- How many copies have met their fate. -/
def counted (lockStep : LockStep) : Nat :=
  lockStep.delivered + lockStep.dropped

/-- A broadcast has a copy for each member of another name. -/
theorem routeToAll_counted (message : Message) (members : List Member) :
    (routeToAll message members).2.1 + (routeToAll message members).2.2 =
      members.countP fun member => member.actor.name != message.sender := by
  induction members with
  | nil => rfl
  | cons member members ih =>
    simp only [routeToAll]
    rw [List.countP_cons]
    split
    next own =>
      rw [ih]
      simp [own]
    next foreign =>
      have other : (member.actor.name != message.sender) = true :=
        bne_iff_ne.mpr foreign
      rw [if_pos other, ← ih]
      split
      · rfl
      · exact Nat.add_right_comm ..

/-- All members but one have another address than that one. -/
theorem Orderly.countP_other {sender : String}
    (orderly : Orderly members)
    (among : sender ∈ members.map Member.address) :
    members.countP (fun member => member.actor.name != sender) =
      members.length - 1 := by
  have once := List.count_eq_one_of_mem orderly.distinct among
  have named : members.countP (fun member => member.actor.name != sender) =
      members.countP fun member => ¬(member.address == sender) = true :=
    List.countP_congr fun member listed => by
      simp [orderly.named member listed]
  have all := List.length_eq_countP_add_countP
    (fun member : Member => member.address == sender) (l := members)
  rw [List.count, List.countP_map] at once
  rw [named]
  simp only [Function.comp_def] at once
  omega

/-- Somebody is found under an address that is known. -/
theorem exists_actor {address : String}
    (known : lockStep.knows address = true) :
    ∃ actor, lockStep.actor? address = some actor := by
  have spec := lockStep.actor?_spec address
  cases found : lockStep.actor? address with
  | some actor => exact ⟨actor, rfl⟩
  | none =>
    rw [found] at spec
    rcases List.mem_map.mp (knows_iff.mp known) with ⟨member, among, same⟩
    exact absurd same (spec member among)

/-- Every copy of a message is delivered or dropped. -/
theorem route_counted
    (orderly : Orderly lockStep.members)
    (routable : lockStep.Routable message) :
    (lockStep.route message).undelivered = lockStep.undelivered ∧
      (lockStep.route message).counted =
        lockStep.counted + message.copies lockStep.members.length := by
  rw [route, Message.copies, Message.isBroadcast]
  split
  next recipient addressed =>
    obtain ⟨actor, found⟩ :=
      exists_actor (routable.recipient recipient addressed)
    rw [found, addressed]
    split
    next none => cases none
    next owner _ =>
      split
      · exact ⟨rfl, rfl⟩
      · exact ⟨rfl, Nat.add_right_comm ..⟩
  next broadcast =>
    -- The sender is in the case, and under its name nobody else is.
    have others := orderly.countP_other (knows_iff.mp routable.sender)
    have split := routeToAll_counted message lockStep.members
    rw [others] at split
    refine ⟨rfl, ?_⟩
    rw [broadcast, counted, counted]
    change _ = lockStep.delivered + lockStep.dropped +
      (lockStep.members.length - 1)
    rw [← split]
    exact Nat.add_add_add_comm ..

theorem addresses_route
    (orderly : Orderly lockStep.members) (message : Message) :
    (lockStep.route message).members.map Member.address =
      lockStep.members.map Member.address := by
  rw [route_members orderly, List.map_map]
  simp [Function.comp_def]

/-- So it is with any number of messages, since routing lets nobody in or out. -/
theorem foldl_route_counted
    (orderly : Orderly lockStep.members)
    (messages : List Message)
    (routable : ∀ message ∈ messages, lockStep.Routable message) :
    (messages.foldl route lockStep).undelivered = lockStep.undelivered ∧
      (messages.foldl route lockStep).counted =
        lockStep.counted +
          (messages.map (Message.copies lockStep.members.length)).sum := by
  induction messages generalizing lockStep with
  | nil => exact ⟨rfl, rfl⟩
  | cons message messages ih =>
    have addresses := addresses_route orderly message
    have size : (lockStep.route message).members.length =
        lockStep.members.length := by
      simpa using congrArg List.length addresses
    have orderlyThen : Orderly (lockStep.route message).members := by
      rw [route_members orderly]
      exact orderly.collect [message]
    have routableThen : ∀ other ∈ messages,
        (lockStep.route message).Routable other := by
      intro other among
      have before := routable other (List.mem_cons_of_mem _ among)
      have stays : ∀ address, lockStep.knows address = true →
          (lockStep.route message).knows address = true := by
        intro address known
        rw [knows_iff, addresses]
        exact knows_iff.mp known
      exact ⟨stays _ before.sender,
        fun recipient addressed => stays _ (before.recipient _ addressed)⟩
    rcases route_counted orderly (routable message List.mem_cons_self) with
      ⟨nobodyMissed, countedFirst⟩
    rcases ih orderlyThen routableThen with ⟨stillNobody, countedRest⟩
    rw [List.foldl_cons]
    refine ⟨stillNobody.trans nobodyMissed, ?_⟩
    rw [countedRest, countedFirst, size, List.map_cons, List.sum_cons,
      Nat.add_assoc]

end LockStep

end Disclosure
