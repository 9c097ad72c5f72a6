import Disclosure.Proofs.Contacts.Bookkeeping
import Disclosure.Proofs.Simulation.Counting
import Disclosure.Proofs.Simulation.Rounds

/-!
# Whom the members know

Whoever sends a message to one party has introduced this party in the same tick, as
the books of the sender show.  Newcomers are admitted before the mail is routed, so
that every message finds its recipient in the case, and so that all participants of
a member are members themselves.
-/

namespace Disclosure

open ActorState

/-- Whom an actor has introduced, it has sent the report to. -/
theorem ActorState.Books.introduced_names {state : ActorState}
    (books : Books state) :
    state.introduced.toList.map Participant.name = state.addressees := by
  rw [books.introduced, books.addressees]

/-- Whom an actor tells in a tick, it introduces in the same tick. -/
theorem Actor.Live.tick_told {actor : Actor}
    (live : actor.Live)
    (books : Books actor.state) :
    Books actor.tick.2.state ∧
      ∃ messages,
        actor.tick.2.state.sent.toList =
          actor.state.sent.toList ++ messages ∧
        actor.tick.2.state.addressees =
          actor.state.addressees ++ messages.filterMap Message.recipient ∧
        (actor.tick.2.state.introduced.toList.drop
            actor.state.introduced.size).map Participant.name =
          messages.filterMap Message.recipient := by
  have booksThen : Books actor.tick.2.state :=
    (Actor.Has.tick Books.invariant ⟨live, books⟩).2
  obtain ⟨messages, _, sent, _⟩ := live.tick.2.signs
  have addressees : actor.tick.2.state.addressees =
      actor.state.addressees ++ messages.filterMap Message.recipient := by
    rw [ActorState.addressees, sent, List.filterMap_append]
    rfl
  have size : actor.state.introduced.size =
      actor.state.addressees.length := by
    rw [← books.introduced_names, List.length_map, Array.length_toList]
  refine ⟨booksThen, messages, sent, addressees, ?_⟩
  rw [List.map_drop, booksThen.introduced_names, addressees, size,
    List.drop_left]

/-- A member after its tick, with its books in order: whom it has told in the tick,
it has introduced in the tick. -/
structure Member.Tells (before after : Member) : Prop where
  address : after.address = before.address
  books : Books after.actor.state
  addressees : after.actor.state.addressees =
    before.actor.state.addressees ++
      (LockStep.tickMember before).introduced.map Participant.name
  told : (LockStep.tickMember before).sent.filterMap Message.recipient =
    (LockStep.tickMember before).introduced.map Participant.name

theorem Member.exists_tells {member : Member}
    (live : member.actor.Live)
    (books : Books member.actor.state) :
    ∃ after, (LockStep.tickMember member).members = [after] ∧
      member.Tells after := by
  by_cases closed : member.actor.isClosed = true
  · have rests := LockStep.tickMember_of_closed closed
    refine ⟨member, by rw [rests], rfl, books, ?_, ?_⟩
    · simp [rests]
    · simp [rests]
  · obtain ⟨booksThen, messages, sent, addressees, introduced⟩ :=
      live.tick_told books
    have news : member.actor.tick.2.state.sent.toList.drop
        member.actor.state.sent.size = messages := by
      rw [sent, ← Array.length_toList, List.drop_left]
    rw [LockStep.tickMember, if_neg closed]
    refine ⟨_, rfl, rfl, Books.invariant.clearRecord _ booksThen, ?_, ?_⟩
    · rw [LockStep.tickMember, if_neg closed]
      exact addressees.trans (congrArg _ introduced.symm)
    · rw [LockStep.tickMember, if_neg closed]
      exact (congrArg _ news).trans introduced.symm

namespace LockStep

variable {lockStep : LockStep} {members : List Member}

theorem tells_of_books
    (live : ∀ member ∈ members, member.actor.Live)
    (books : ∀ member ∈ members, Books member.actor.state) :
    List.Forall₂ Member.Tells members (tickAll members).members :=
  tickAll_pairs fun member among =>
    Member.exists_tells (live member among) (books member among)

/-- So it is with all members together. -/
theorem told_of_tells {after : List Member}
    (tells : List.Forall₂ Member.Tells members after) :
    (tickAll members).sent.filterMap Message.recipient =
      (tickAll members).introduced.map Participant.name := by
  induction tells with
  | nil => rfl
  | @cons member _ members _ first _ ih =>
    rw [(tickAll_cons member members).2, List.map_append, ← ih, ← first.told,
      ← List.filterMap_append]
    rfl

/-- The books of all members are in order, and all whom they have told are in the
case. -/
structure Acquainted (lockStep : LockStep) : Prop where
  books : ∀ member ∈ lockStep.members, Books member.actor.state
  known : ∀ member ∈ lockStep.members,
    ∀ name ∈ member.actor.state.addressees, lockStep.knows name = true

/-- Who has just joined has not told anybody. -/
theorem Begins.unacquainted {name : String} {roles : Roles}
    {prepare : ActorState → ActorState} {member : Member}
    (begins : Begins name roles prepare member)
    (keeps : ∀ state, (prepare state).sent = state.sent ∧
      (prepare state).contacts = state.contacts) :
    Books member.actor.state ∧ member.actor.state.addressees = [] := by
  rcases begins with ⟨_, _, chance, state⟩
  rcases keeps (ActorState.new name roles chance).recordStates with
    ⟨sent, contacts⟩
  rw [state]
  refine ⟨.of_beginning sent contacts, ?_⟩
  rw [ActorState.addressees, sent]
  rfl

theorem Joins.unacquainted {record : Participant} {member : Member}
    (joins : Joins record member) :
    Books member.actor.state ∧ member.actor.state.addressees = [] := by
  refine Begins.unacquainted joins fun state => ?_
  rw [moveCase_eq, moveEmbargo_eq]
  exact ⟨rfl, rfl⟩

section Round

variable {fresh : List Member} {gathered : LockStep}
  (gathers : Gathers lockStep gathered.members)
  (tells : List.Forall₂ Member.Tells lockStep.members
    (tickAll lockStep.members).members)
  (admitted : ∀ record ∈ (tickAll lockStep.members).introduced,
    gathered.knows record.name = true)

include gathers tells admitted

/-- The sender of every message of a round is in the case when it is routed, and so
are the parties that were told. -/
theorem Attends.routable (attends : lockStep.Attends) :
    ∀ message ∈ (tickAll lockStep.members).sent,
      gathered.Routable message := by
  intro message among
  constructor
  · rcases List.mem_flatMap.mp among with ⟨ticked, listed, sent⟩
    rcases List.mem_map.mp listed with ⟨member, inCase, rfl⟩
    rcases (attends.ready member inCase).tick with ⟨_, _, _, signed⟩
    rw [signed message sent, knows_iff]
    exact gathers.stays _ (knows_iff.mpr (List.mem_map_of_mem inCase))
  · intro recipient addressed
    have listed : recipient ∈
        (tickAll lockStep.members).introduced.map Participant.name := by
      rw [← told_of_tells tells]
      exact List.mem_filterMap.mpr ⟨message, among, addressed⟩
    rcases List.mem_map.mp listed with ⟨record, introduced, rfl⟩
    exact admitted record introduced

/-- After the ticks everybody is acquainted again, newcomers included. -/
theorem Acquainted.gather (acquainted : lockStep.Acquainted)
    (shape : gathered.members =
      (tickAll lockStep.members).members ++ fresh)
    (joins : ∀ member ∈ fresh,
      ∃ record ∈ (tickAll lockStep.members).introduced,
        Joins record member) :
    gathered.Acquainted := by
  constructor
  · rw [shape, List.forall_mem_append]
    constructor
    · intro member among
      rcases exists_of_pairs tells among with ⟨_, _, told⟩
      exact told.books
    · intro member among
      rcases joins member among with ⟨_, _, joined⟩
      exact joined.unacquainted.1
  · rw [shape, List.forall_mem_append]
    constructor
    · intro member among name told
      rcases exists_of_pairs tells among with ⟨before, listed, tells⟩
      rw [tells.addressees] at told
      -- Who was told earlier is still there, and who was told now was admitted.
      rcases List.mem_append.mp told with earlier | now
      · rw [knows_iff]
        exact gathers.stays name (acquainted.known before listed name earlier)
      · rcases List.mem_map.mp now with ⟨record, introduced, rfl⟩
        apply admitted record
        exact List.mem_flatMap.mpr
          ⟨_, List.mem_map_of_mem listed, introduced⟩
    · intro member among
      rcases joins member among with ⟨_, _, joined⟩
      rw [joined.unacquainted.2]
      exact List.forall_mem_nil _

end Round

/-- Mail that arrives makes nobody known. -/
theorem Acquainted.collect (acquainted : lockStep.Acquainted)
    {next : LockStep} {messages : List Message}
    (collected : next.members =
      lockStep.members.map (Member.collect messages)) :
    next.Acquainted := by
  constructor
  · rw [collected, List.forall_mem_map]
    intro member among
    rw [Member.collect, Member.receive_eq]
    exact (acquainted.books member among).speak (.silent rfl rfl rfl)
  · rw [collected, List.forall_mem_map]
    intro member among name told
    rw [Member.collect, Member.receive_eq] at told
    have known := acquainted.known member among name told
    rw [knows_iff] at known ⊢
    rw [collected, List.map_map]
    simpa [Function.comp_def] using known

/-- A round keeps everybody acquainted.  No message of it is undelivered, and every
copy of its messages is counted. -/
theorem Acquainted.round {next : LockStep}
    (acquainted : lockStep.Acquainted)
    (attends : lockStep.Attends)
    (went : lockStep.round = .ok next) :
    next.Acquainted ∧ next.undelivered = lockStep.undelivered ∧
      next.counted = lockStep.counted +
        (lockStep.posts.map fun posted =>
          posted.message.copies next.members.length).sum := by
  obtain ⟨fresh, gathered, shape, joins, admitted, gathers, goes⟩ :=
    attends.exists_routed
  have tells := tells_of_books
    (fun member among => (attends.ready member among).live)
    acquainted.books
  have sameMembers : gathered.members =
      (tickAll lockStep.members).members ++ fresh := by
    rw [shape]
  have gatheredKnown := acquainted.gather gathers tells admitted sameMembers
    joins
  have collected := (foldl_route gathers.orderly
    (tickAll lockStep.members).sent).1
  obtain ⟨missed, counted⟩ := foldl_route_counted gathers.orderly
    (tickAll lockStep.members).sent
    (attends.routable gathers tells admitted)
  cases goes.symm.trans went
  refine ⟨gatheredKnown.collect collected, ?_, ?_⟩
  · rw [missed, shape]
  · rw [counted, collected, List.length_map, ← posts_message, List.map_map]
    rw [shape]
    rfl

end LockStep

end Disclosure
