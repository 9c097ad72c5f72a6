import Disclosure.Simulation.Report

/-!
# Cases in lock step

Several actors that tick in rounds.  After each round the newcomers are admitted
that somebody has told about the case, and then the messages of the round are
delivered, in the order in which they were sent.
-/

namespace Disclosure

/-- An actor under the name by which messages reach it. -/
structure Member where
  address : String
  actor : Actor

/-- A case: its members in the order of joining, and the mail on the way. -/
structure LockStep where
  members : List Member
  /-- Messages that wait for the end of the round. -/
  outbox : List Message
  /-- The seed of the first member, if the case is seeded. -/
  seed : Option UInt64
  /-- What the operating system gives to the members. -/
  entropy : Nat → Chance
  delivered : Nat
  undelivered : Nat
  dropped : Nat

namespace LockStep

def empty (seed : Option UInt64) (entropy : Nat → Chance) : LockStep :=
  ⟨[], [], seed, entropy, 0, 0, 0⟩

/-- Whether there is a member of this address. -/
def knows (lockStep : LockStep) (address : String) : Bool :=
  lockStep.members.any fun member => member.address == address

/-- Change the last of some members that has the address. -/
def modifyLast (address : String) (change : Actor → Actor) :
    List Member → List Member
  | [] => []
  | member :: members =>
    if member.address = address
        ∧ !members.any fun other => other.address == address then
      { member with actor := change member.actor } :: members
    else member :: modifyLast address change members

/-- The member of an address; the last one to join, if there are several. -/
def actor? (lockStep : LockStep) (address : String) : Option Actor :=
  (lockStep.members.reverse.find? fun member =>
    member.address == address).map Member.actor

def modifyActor (lockStep : LockStep) (address : String)
    (change : Actor → Actor) : LockStep :=
  { lockStep with members := modifyLast address change lockStep.members }

def allClosed (lockStep : LockStep) : Bool :=
  lockStep.members.all fun member => member.actor.isClosed

/-! ## Joining -/

/-- Add a member, with a stream of its own. -/
def join (lockStep : LockStep) (name : String) (roles : Roles)
    (prepare : Actor → Actor) : Except BuildError LockStep := do
  let chance :=
    Chance.ofNumber lockStep.seed lockStep.entropy lockStep.members.length
  let actor ← Actor.new name roles chance
  return { lockStep with
    members := lockStep.members ++ [⟨name, prepare actor⟩] }

/-- Admit newcomers, except for those whose name is known already. -/
def enroll (lockStep : LockStep) :
    List Participant → Except BuildError LockStep
  | [] => .ok lockStep
  | newcomer :: newcomers => do
    if lockStep.knows newcomer.name then lockStep.enroll newcomers
    else
      let lockStep ←
        lockStep.join newcomer.name newcomer.roles (Actor.adopt newcomer)
      lockStep.enroll newcomers

/-- A case with the given participants. -/
def ofEnrollments (seed : Option UInt64) (entropy : Nat → Chance)
    (participants : List Enrollment) : Except BuildError LockStep :=
  participants.foldlM
    (fun lockStep enrollment =>
      lockStep.join enrollment.name enrollment.roles id)
    (empty seed entropy)

/-! ## Mail -/

/-- Send a message as a member; it waits for the end of the round. -/
def send (lockStep : LockStep) (address : String) (message : Message) :
    LockStep :=
  { lockStep.modifyActor address (·.modify (·.send message)) with
    outbox := lockStep.outbox ++ [message] }

/-- Deliver a message to all members but its sender. -/
def routeToAll (message : Message) : List Member → List Member × Nat × Nat
  | [] => ([], 0, 0)
  | member :: members =>
    let (members, delivered, dropped) := routeToAll message members
    if member.actor.name = message.sender then
      (member :: members, delivered, dropped)
    else if member.actor.isClosed then
      (member :: members, delivered, dropped + 1)
    else
      ({ member with actor := member.actor.deliver message } :: members,
        delivered + 1, dropped)

/-- Deliver a message; who has closed the report gets nothing any more. -/
def route (lockStep : LockStep) (message : Message) : LockStep :=
  match message.recipient with
  | some recipient =>
    match lockStep.actor? recipient with
    | none => { lockStep with undelivered := lockStep.undelivered + 1 }
    | some actor =>
      if actor.isClosed then
        { lockStep with dropped := lockStep.dropped + 1 }
      else
        { lockStep.modifyActor recipient (·.deliver message) with
          delivered := lockStep.delivered + 1 }
  | none =>
    let (members, delivered, dropped) := routeToAll message lockStep.members
    { lockStep with
      members := members
      delivered := lockStep.delivered + delivered
      dropped := lockStep.dropped + dropped }

/-! ## Rounds -/

/-- The members after a round of ticks, whom they introduced and what they
sent. -/
structure Ticked where
  members : List Member
  introduced : List Participant
  sent : List Message

/-- Tick an open actor; a closed one rests. -/
def tickMember (member : Member) : Ticked :=
  if member.actor.isClosed then ⟨[member], [], []⟩
  else
    let before := member.actor.state
    let actor := member.actor.tick.2.modify fun state =>
      { state with arbiter := state.arbiter.clearRecord }
    { members := [{ member with actor }]
      introduced := actor.state.introduced.toList.drop before.introduced.size
      sent := actor.state.sent.toList.drop before.sent.size }

/-- Tick all open members in the order of joining. -/
def tickAll (members : List Member) : Ticked :=
  let ticked := members.map tickMember
  { members := ticked.flatMap Ticked.members
    introduced := ticked.flatMap Ticked.introduced
    sent := ticked.flatMap Ticked.sent }

/-- One round: tick everybody, enroll newcomers, deliver the messages. -/
def round (lockStep : LockStep) : Except BuildError LockStep := do
  let ticked := tickAll lockStep.members
  let admitted ←
    { lockStep with members := ticked.members, outbox := [] }.enroll
      ticked.introduced
  return (lockStep.outbox ++ ticked.sent).foldl route admitted

/-- Up to so many rounds, until all have closed; counts them from `taken`. -/
def runFrom (taken : Nat) : Nat → LockStep → Except BuildError (Nat × LockStep)
  | 0, lockStep => .ok (taken, lockStep)
  | rounds + 1, lockStep => do
    if lockStep.allClosed then return (taken, lockStep)
    else runFrom (taken + 1) rounds (← lockStep.round)

/-- The report after some rounds. -/
def report (lockStep : LockStep) (rounds : Nat) : Report where
  mode := .lockStep
  rounds := rounds
  delivered := lockStep.delivered
  undelivered := lockStep.undelivered
  dropped := lockStep.dropped
  actors := lockStep.members.map fun member => member.actor.summary

def run (config : Config) (entropy : Nat → Chance) :
    Except BuildError Report := do
  let lockStep ← ofEnrollments config.seed entropy config.participants
  let (rounds, lockStep) ← runFrom 0 config.maxTicks.toNat lockStep
  return lockStep.report rounds

end LockStep

end Disclosure
