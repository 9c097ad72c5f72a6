import Disclosure.Proofs.Simulation.Attention

/-!
# Rounds of an attended case

A case is attended when its members go by addresses of their own and take up all of
their mail whenever they tick.  So it is from the beginning if the participants have
different names, and every round keeps it so: the members have ticked, newcomers
stand behind them, and everybody who is open gets the mail of the round.
-/

namespace Disclosure

/-- A message together with the address of the member who has sent it. -/
structure Posted where
  poster : String
  message : Message

/-- It is addressed to this member, or broadcast by another one. -/
def Posted.isFor (address : String) (posted : Posted) : Bool :=
  match posted.message.recipient with
  | some recipient => recipient == address
  | none => posted.poster != address

namespace LockStep

/-! ## The mail of a round -/

/-- What is sent in the next round, in the order of the ticks and of sending. -/
def posts (lockStep : LockStep) : List Posted :=
  lockStep.members.flatMap fun member =>
    (tickMember member).sent.map (Posted.mk member.address)

/-- The messages of the next round that are for a member. -/
def mailFor (lockStep : LockStep) (address : String) : List Message :=
  (lockStep.posts.filter (Posted.isFor address)).map Posted.message

/-- Whether a member of this address is in the case and open. -/
def hasOpen (lockStep : LockStep) (address : String) : Bool :=
  lockStep.members.any fun member =>
    member.address == address && !member.actor.isClosed

theorem posts_message (lockStep : LockStep) :
    lockStep.posts.map Posted.message = (tickAll lockStep.members).sent := by
  simp only [posts, tickAll, List.map_flatMap, List.map_map,
    List.flatMap_map]
  congr 1
  funext member
  exact List.map_id _

/-- A case in which everybody goes through all mail, with none on the way. -/
structure Attends (lockStep : LockStep) : Prop where
  orderly : Orderly lockStep.members
  ready : ∀ member ∈ lockStep.members, member.Ready
  idle : lockStep.outbox = []

variable {lockStep : LockStep}

/-- Everybody sends under an own name, so a message is for whom it says. -/
theorem Attends.mailFor_eq (attends : lockStep.Attends) (address : String) :
    (tickAll lockStep.members).sent.filter (Message.isFor address) =
      lockStep.mailFor address := by
  rw [← posts_message, List.filter_map, mailFor]
  congr 1
  refine List.filter_congr fun posted among => ?_
  rcases List.mem_flatMap.mp among with ⟨member, listed, posts⟩
  rcases List.mem_map.mp posts with ⟨message, sent, rfl⟩
  rcases (attends.ready member listed).tick with ⟨_, _, _, signed⟩
  have sender := signed message sent
  cases addressed : message.recipient with
  | none | some =>
    simp only [Function.comp, Message.isFor, Posted.isFor, addressed, sender]

/-! ## One round -/

/-- Who was in the case has heard all of its mail, and newcomers nothing. -/
def Continues (before : LockStep) (member : Member) : Prop :=
  (before.knows member.address = false ∧ member.actor.state.heard = []) ∨
    ∃ earlier ∈ before.members, earlier.address = member.address ∧
      member.actor.state.heard =
        earlier.actor.state.heard ++
          earlier.actor.state.inbox.map Message.type

/-- The members when all have ticked and the newcomers have joined. -/
structure Gathers (before : LockStep) (members : List Member) : Prop where
  orderly : Orderly members
  ready : ∀ member ∈ members, member.Ready
  inbox : ∀ member ∈ members, member.actor.state.inbox = []
  continues : ∀ member ∈ members, Continues before member
  stays : ∀ address, before.knows address = true →
    address ∈ members.map Member.address

/-- What a round does: everybody has heard all earlier mail, and has got the mail
of the round if it is open. -/
structure Advances (before after : LockStep) : Prop extends Attends after where
  continues : ∀ member ∈ after.members, Continues before member
  inbox : ∀ member ∈ after.members, member.actor.state.inbox =
    if member.actor.isClosed then [] else before.mailFor member.address
  stays : ∀ address, before.knows address = true →
    after.knows address = true

theorem ticks_of_ready {members : List Member}
    (ready : ∀ member ∈ members, member.Ready) :
    List.Forall₂ Member.Ticks members (tickAll members).members := by
  refine tickAll_pairs fun member among => ?_
  obtain ⟨after, alone, ticks, _⟩ := (ready member among).tick
  exact ⟨after, alone, ticks⟩

/-- After the ticks all newcomers are admitted. -/
theorem Attends.exists_gathered (attends : lockStep.Attends) :
    ∃ fresh,
      enroll { lockStep with
          members := (tickAll lockStep.members).members, outbox := [] }
        (tickAll lockStep.members).introduced =
        .ok { lockStep with
          members := (tickAll lockStep.members).members ++ fresh
          outbox := [] } ∧
      (∀ member ∈ fresh,
        ∃ record ∈ (tickAll lockStep.members).introduced,
          Joins record member) ∧
      Gathers lockStep ((tickAll lockStep.members).members ++ fresh) := by
  have ticks := ticks_of_ready attends.ready
  have addresses : (tickAll lockStep.members).members.map Member.address =
      lockStep.members.map Member.address :=
    addresses_of_pairs (fun _ _ done => done.address) ticks
  have orderlyTicked : Orderly (tickAll lockStep.members).members := by
    refine ⟨addresses ▸ attends.orderly.distinct, fun member among => ?_⟩
    rcases exists_of_pairs ticks among with ⟨_, _, done⟩
    exact done.named
  obtain ⟨fresh, enrolled, joins, apart, unknown⟩ := exists_enrolled
    (tickAll lockStep.members).introduced
    { lockStep with
      members := (tickAll lockStep.members).members, outbox := [] }
  have areFresh : ∀ member ∈ fresh, member.Fresh := by
    intro member among
    rcases joins member among with ⟨_, _, joined⟩
    exact joined.fresh
  have orderly := Orderly.append orderlyTicked
    (fun member among => (areFresh member among).named) apart unknown
  have distinct := orderly.distinct
  rw [List.map_append, addresses, List.nodup_append] at distinct
  refine ⟨fresh, enrolled, joins, orderly, ?_, ?_, ?_, ?_⟩
  · intro member among
    rcases List.mem_append.mp among with ticked | joined
    · rcases exists_of_pairs ticks ticked with ⟨_, _, done⟩
      exact done.toReady
    · exact (areFresh member joined).toReady
  · intro member among
    rcases List.mem_append.mp among with ticked | joined
    · rcases exists_of_pairs ticks ticked with ⟨_, _, done⟩
      exact done.inbox
    · exact (areFresh member joined).inbox
  · intro member among
    rcases List.mem_append.mp among with ticked | joined
    · rcases exists_of_pairs ticks ticked with ⟨earlier, listed, done⟩
      exact .inr ⟨earlier, listed, done.address.symm, done.heard⟩
    · refine .inl ⟨?_, (areFresh member joined).heard⟩
      rw [Bool.eq_false_iff]
      intro known
      exact distinct.2.2 _ (knows_iff.mp known) _
        (List.mem_map_of_mem joined) rfl
  · intro address known
    rw [List.map_append, addresses]
    exact List.mem_append_left _ (knows_iff.mp known)

/-- A round never fails: behind the members that have ticked stand the newcomers,
and what was sent is routed among them all. -/
theorem Attends.exists_routed (attends : lockStep.Attends) :
    ∃ fresh gathered,
      gathered = { lockStep with
        members := (tickAll lockStep.members).members ++ fresh
        outbox := [] } ∧
      (∀ member ∈ fresh,
        ∃ record ∈ (tickAll lockStep.members).introduced,
          Joins record member) ∧
      (∀ record ∈ (tickAll lockStep.members).introduced,
        gathered.knows record.name = true) ∧
      Gathers lockStep gathered.members ∧
      lockStep.round =
        .ok ((tickAll lockStep.members).sent.foldl route gathered) := by
  obtain ⟨fresh, enrolled, joins, gathers⟩ := attends.exists_gathered
  refine ⟨fresh, _, rfl, joins, (knows_of_enroll enrolled).2, gathers, ?_⟩
  simp only [LockStep.round, enrolled, attends.idle, List.nil_append]
  rfl

/-- Everybody attends again after a round. -/
theorem Attends.round (attends : lockStep.Attends) :
    ∃ next, lockStep.round = .ok next ∧ Advances lockStep next := by
  obtain ⟨_, gathered, rfl, _, _, gathers, went⟩ := attends.exists_routed
  obtain ⟨routed, idle⟩ :=
    foldl_route gathers.orderly (tickAll lockStep.members).sent
  refine ⟨_, went, ⟨⟨?_, ?_, idle⟩, ?_, ?_, ?_⟩⟩
  · rw [routed]
    exact gathers.orderly.collect _
  · rw [routed, List.forall_mem_map]
    exact fun member among => (gathers.ready member among).collect _
  · rw [routed, List.forall_mem_map]
    intro member among
    have continues := gathers.continues member among
    rwa [Continues, Member.collect, Member.receive_eq]
  · rw [routed, List.forall_mem_map]
    intro member among
    rw [Member.isClosed_collect, Member.address_collect, ← attends.mailFor_eq,
      Member.collect, Member.receive_eq]
    refine Eq.trans ?_ (List.nil_append _)
    exact congrArg (· ++ _) (gathers.inbox member among)
  · intro address known
    rw [knows_iff, routed, List.map_map]
    simpa [Function.comp_def] using gathers.stays address known

/-! ## Runs -/

section Redraw

variable (draws : Nat → Option Chance)

theorem exists_of_mem_redraw {member : Member}
    (among : member ∈ (lockStep.redraw draws).members) :
    ∃ earlier ∈ lockStep.members, ∃ chance,
      member = earlier.redraw chance := by
  rcases List.mem_mapIdx.mp among with ⟨number, inside, rfl⟩
  exact ⟨_, List.getElem_mem inside, _, rfl⟩

theorem addresses_redraw (members : List Member) :
    ((members.mapIdx fun number member =>
        member.redraw (draws number)).map Member.address) =
      members.map Member.address := by
  induction members generalizing draws with
  | nil => rfl
  | cons member members ih =>
    rw [List.mapIdx_cons, List.map_cons, List.map_cons, ih,
      (member.redraw_mail _).1]

theorem knows_redraw (address : String) :
    (lockStep.redraw draws).knows address = lockStep.knows address := by
  rw [Bool.eq_iff_iff, knows_iff, knows_iff, redraw, addresses_redraw]

theorem Attends.redraw (attends : lockStep.Attends) :
    (lockStep.redraw draws).Attends := by
  have ready : ∀ member ∈ (lockStep.redraw draws).members,
      member.Ready := by
    intro member among
    rcases exists_of_mem_redraw draws among with ⟨earlier, listed, _, rfl⟩
    exact (attends.ready earlier listed).redraw _
  refine ⟨⟨?_, fun member among => (ready member among).named⟩, ready,
    attends.idle⟩
  rw [LockStep.redraw, addresses_redraw]
  exact attends.orderly.distinct

/-- Nobody can tell by the mail whether chance was exchanged. -/
theorem Continues.of_redraw {member : Member}
    (continues : Continues (lockStep.redraw draws) member) :
    Continues lockStep member := by
  rcases continues with ⟨unknown, nothing⟩ | ⟨redrawn, among, same, heard⟩
  · exact .inl ⟨knows_redraw draws _ ▸ unknown, nothing⟩
  · rcases exists_of_mem_redraw draws among with
      ⟨earlier, listed, chance, rfl⟩
    rcases earlier.redraw_mail chance with ⟨address, inbox, heardSame⟩
    rw [inbox, heardSame] at heard
    exact .inr ⟨earlier, listed, address.symm.trans same, heard⟩

end Redraw

/-- A case with different participants attends from the beginning. -/
theorem exists_attending (seed : Option UInt64) (entropy : Nat → Chance)
    {participants : List Enrollment}
    (distinct : (participants.map Enrollment.name).Nodup) :
    ∃ founders,
      ofEnrollments seed entropy participants =
        .ok { empty seed entropy with members := founders } ∧
      List.Forall₂ Founds participants founders ∧
      Attends { empty seed entropy with members := founders } := by
  obtain ⟨founders, founded, found⟩ :=
    exists_founded participants (empty seed entropy)
  have fresh : ∀ member ∈ founders, member.Fresh := by
    intro member among
    rcases exists_of_pairs found among with ⟨_, _, founds⟩
    exact founds.fresh
  have addresses : founders.map Member.address =
      participants.map Enrollment.name :=
    addresses_of_pairs (fun _ _ founds => founds.address) found
  refine ⟨founders, founded, found, ⟨⟨?_, ?_⟩, ?_, rfl⟩⟩
  · exact addresses ▸ distinct
  · exact fun member among => (fresh member among).named
  · exact fun member among => (fresh member among).toReady

/-- A run of a case in which everybody attends throughout. -/
structure Attended (seed : Option UInt64) (entropy : Nat → Chance)
    (participants : List Enrollment) (draws : Nat → Nat → Option Chance)
    (cases : Nat → LockStep) : Prop where
  reached : ∀ count,
    afterRedrawn seed entropy participants draws count = .ok (cases count)
  begins : ∃ founders,
    cases 0 = { empty seed entropy with members := founders } ∧
      List.Forall₂ Founds participants founders
  attends : ∀ count, (cases count).Attends
  round : ∀ count,
    ((cases count).redraw (draws count)).round = .ok (cases (count + 1))

/-- Every run goes through, round by round. -/
theorem exists_attended (seed : Option UInt64) (entropy : Nat → Chance)
    {participants : List Enrollment} (draws : Nat → Nat → Option Chance)
    (distinct : (participants.map Enrollment.name).Nodup) :
    ∃ cases, Attended seed entropy participants draws cases := by
  obtain ⟨founders, founded, found, attends⟩ :=
    exists_attending seed entropy distinct
  have goesOn : ∀ count, ∃ lockStep,
      afterRedrawn seed entropy participants draws count = .ok lockStep ∧
        lockStep.Attends := by
    intro count
    induction count with
    | zero => exact ⟨_, founded, attends⟩
    | succ count ih =>
      rcases ih with ⟨before, went, attendsBefore⟩
      obtain ⟨next, round, advances⟩ :=
        (attendsBefore.redraw (draws count)).round
      refine ⟨next, ?_, advances.toAttends⟩
      rw [afterRedrawn, went]
      exact round
  choose cases went attendsAll using goesOn
  have begun : cases 0 = { empty seed entropy with members := founders } :=
    Except.ok.inj ((went 0).symm.trans founded)
  refine ⟨cases, went, ⟨founders, begun, found⟩, attendsAll, ?_⟩
  intro count
  have wentOn := went (count + 1)
  rw [afterRedrawn, went count] at wentOn
  exact wentOn

end LockStep

end Disclosure
