import Disclosure.Proofs.Actor.Run
import Disclosure.Simulation.LockStep

/-!
# Runs of a case in lock step

A case can always be set up, and its rounds never fail.  Its members are the
founders, in the order of joining, and behind them the newcomers.  A charter says
what founders and newcomers keep to; it holds of every member after any number
of rounds.
-/

namespace Disclosure

/-- Whatever invariant holds of a member before holds of it after. -/
def Member.Follows (before after : Member) : Prop :=
  ∀ property, ActorState.Invariant property → before.actor.Has property →
    after.actor.Has property

theorem Member.Follows.refl (member : Member) : member.Follows member :=
  fun _ _ has => has

/-- The same state with other chance to draw on. -/
def ActorState.redraw (chance : Chance) (state : ActorState) : ActorState :=
  { state with stream := chance.stream, identifiers := chance.identifiers }

/-- The same member, or one with other chance to draw on. -/
def Member.redraw (chance : Option Chance) (member : Member) : Member :=
  match chance with
  | none => member
  | some chance =>
    { member with actor := member.actor.modify (·.redraw chance) }

theorem Member.follows_deliver (member : Member) (message : Message) :
    member.Follows { member with actor := member.actor.deliver message } :=
  fun _ invariant has => has.deliver invariant message

namespace LockStep

/-! ## Mail and ticks, member by member -/

theorem forall₂_refl (members : List Member) :
    List.Forall₂ Member.Follows members members :=
  List.forall₂_same.mpr fun member _ => .refl member

theorem modifyLast_follows (address : String) (message : Message)
    (members : List Member) :
    List.Forall₂ Member.Follows members
      (modifyLast address (·.deliver message) members) := by
  induction members with
  | nil => exact .nil
  | cons member members ih =>
    rw [modifyLast]
    split
    · exact .cons (member.follows_deliver message) (forall₂_refl members)
    · exact .cons (.refl member) ih

theorem routeToAll_follows (message : Message) (members : List Member) :
    List.Forall₂ Member.Follows members (routeToAll message members).1 := by
  induction members with
  | nil => exact .nil
  | cons member members ih =>
    simp only [routeToAll]
    split
    · exact .cons (.refl member) ih
    · split
      · exact .cons (.refl member) ih
      · exact .cons (member.follows_deliver message) ih

theorem route_follows (message : Message) (lockStep : LockStep) :
    List.Forall₂ Member.Follows lockStep.members
      (lockStep.route message).members := by
  rw [route]
  split
  · split
    · exact forall₂_refl _
    · split
      · exact forall₂_refl _
      · exact modifyLast_follows _ message _
  · exact routeToAll_follows message lockStep.members

/-- A member after its tick, unless it rests, and whom it has introduced. -/
theorem tickMember_follows (member : Member) :
    ∃ after, (tickMember member).members = [after] ∧ member.Follows after ∧
      ∀ record ∈ (tickMember member).introduced,
        record ∈ after.actor.state.introduced := by
  rw [tickMember]
  split
  · exact ⟨member, rfl, .refl member, by simp⟩
  · refine ⟨_, rfl, ?_, ?_⟩
    · intro property invariant has
      have ticked := has.tick invariant
      exact ⟨ticked.1, invariant.clearRecord _ ticked.2⟩
    · intro record member
      exact Array.mem_toList_iff.mp (List.mem_of_mem_drop member)

theorem tickMember_of_closed {member : Member}
    (closed : member.actor.isClosed = true) :
    tickMember member = ⟨[member], [], []⟩ :=
  if_pos closed

theorem tickAll_cons (member : Member) (members : List Member) :
    (tickAll (member :: members)).members =
        (tickMember member).members ++ (tickAll members).members ∧
      (tickAll (member :: members)).introduced =
        (tickMember member).introduced ++ (tickAll members).introduced :=
  ⟨rfl, rfl⟩

/-- What a tick does to every single member, the ticks do to all of them. -/
theorem tickAll_pairs {related : Member → Member → Prop}
    {members : List Member}
    (each : ∀ member ∈ members,
      ∃ after, (tickMember member).members = [after] ∧
        related member after) :
    List.Forall₂ related members (tickAll members).members := by
  induction members with
  | nil => exact .nil
  | cons member members ih =>
    rw [List.forall_mem_cons] at each
    obtain ⟨after, alone, holds⟩ := each.1
    rw [(tickAll_cons member members).1, alone]
    exact .cons holds (ih each.2)

theorem tickAll_follows (members : List Member) :
    List.Forall₂ Member.Follows members (tickAll members).members ∧
      ∀ record ∈ (tickAll members).introduced,
        ∃ after ∈ (tickAll members).members,
          record ∈ after.actor.state.introduced := by
  induction members with
  | nil => exact ⟨.nil, by simp [tickAll]⟩
  | cons member members ih =>
    rcases tickMember_follows member with ⟨after, alone, follows, listed⟩
    rcases tickAll_cons member members with ⟨sameMembers, sameIntroduced⟩
    rw [sameMembers, sameIntroduced, alone]
    refine ⟨.cons follows ih.1, ?_⟩
    intro record introduced
    rcases List.mem_append.mp introduced with first | later
    · exact ⟨after, by simp, listed record first⟩
    · rcases ih.2 record later with ⟨other, among, listedThere⟩
      exact ⟨other, by simp [among], listedThere⟩

/-! ## Charters -/

/-- What the founders of a case keep to, what the newcomers keep to, and whom
they may introduce. -/
structure Charter where
  founder : ActorState → Prop
  newcomer : ActorState → Prop
  admits : Participant → Prop
  founderKept : ActorState.Invariant founder
  newcomerKept : ActorState.Invariant newcomer
  founderRedrawn : ∀ state chance, founder state →
    founder (state.redraw chance)
  newcomerRedrawn : ∀ state chance, newcomer state →
    newcomer (state.redraw chance)
  founds : ∀ name roles chance,
    founder (ActorState.new name roles chance).recordStates
  joins : ∀ name roles chance record, admits record →
    newcomer
      (((ActorState.new name roles chance).recordStates.moveEmbargo
        record.embargo).moveCase record.state)
  founderAdmits : ∀ state, founder state → ∀ record ∈ state.introduced,
    admits record
  newcomerAdmits : ∀ state, newcomer state → ∀ record ∈ state.introduced,
    admits record

namespace Charter

/-- What the member of some number keeps to. -/
def keeps (charter : Charter) (founders number : Nat) : ActorState → Prop :=
  if number < founders then charter.founder else charter.newcomer

theorem keeps_kept (charter : Charter) (founders number : Nat) :
    ActorState.Invariant (charter.keeps founders number) := by
  rw [keeps]
  split
  · exact charter.founderKept
  · exact charter.newcomerKept

theorem keeps_redrawn (charter : Charter) {founders number : Nat}
    {member : Member} (chance : Option Chance)
    (has : member.actor.Has (charter.keeps founders number)) :
    (member.redraw chance).actor.Has (charter.keeps founders number) := by
  cases chance with
  | none => exact has
  | some chance =>
    refine ⟨has.1, ?_⟩
    have kept := has.2
    by_cases founds : number < founders
    · rw [keeps, if_pos founds] at kept ⊢
      exact charter.founderRedrawn _ chance kept
    · rw [keeps, if_neg founds] at kept ⊢
      exact charter.newcomerRedrawn _ chance kept

/-- The first members are founders, all others newcomers, and each of them keeps
to the charter. -/
def Governs (charter : Charter) (founders : Nat)
    (members : List Member) : Prop :=
  founders ≤ members.length ∧
    ∀ (number : Nat) (member : Member), members[number]? = some member →
      member.actor.Has (charter.keeps founders number)

variable {charter : Charter} {founders : Nat}

theorem Governs.follow {before after : List Member}
    (governs : charter.Governs founders before)
    (follows : List.Forall₂ Member.Follows before after) :
    charter.Governs founders after := by
  refine ⟨follows.length_eq ▸ governs.1, ?_⟩
  intro number member found
  rcases List.getElem?_eq_some_iff.mp found with ⟨inside, same⟩
  have insideBefore : number < before.length := follows.length_eq ▸ inside
  have stood := governs.2 number before[number]
    (List.getElem?_eq_getElem insideBefore)
  have step := follows.get insideBefore inside
  rw [← same]
  exact step _ (charter.keeps_kept founders number) stood

/-- What founders and newcomers have in common, all members have. -/
theorem Governs.member {members : List Member} {property : ActorState → Prop}
    (governs : charter.Governs founders members)
    (founder : ∀ state, charter.founder state → property state)
    (newcomer : ∀ state, charter.newcomer state → property state)
    {member : Member}
    (among : member ∈ members) :
    property member.actor.state := by
  rcases List.getElem?_of_mem among with ⟨number, found⟩
  have kept := (governs.2 number member found).2
  rw [keeps] at kept
  split at kept
  · exact founder _ kept
  · exact newcomer _ kept

/-- The newcomers of a round may be admitted. -/
theorem Governs.admits {members : List Member}
    (governs : charter.Governs founders members)
    {member : Member}
    (among : member ∈ members) :
    ∀ record ∈ member.actor.state.introduced, charter.admits record :=
  governs.member charter.founderAdmits charter.newcomerAdmits among

/-- Newcomers go behind all members. -/
theorem Governs.append {members newcomers : List Member}
    (governs : charter.Governs founders members)
    (each : ∀ member ∈ newcomers, member.actor.Has charter.newcomer) :
    charter.Governs founders (members ++ newcomers) := by
  refine ⟨by simpa using Nat.le_add_right_of_le governs.1, ?_⟩
  intro number member found
  rcases Nat.lt_or_ge number members.length with inside | beyond
  · rw [List.getElem?_append_left inside] at found
    exact governs.2 number member found
  · rw [List.getElem?_append_right beyond] at found
    rw [keeps, if_neg (Nat.not_lt.mpr (Nat.le_trans governs.1 beyond))]
    exact each member (List.mem_of_getElem? found)

end Charter

/-! ## Joining -/

/-- A member that has just joined: it goes by the name, and but for what it was
prepared with it has not heard of anything. -/
structure Begins (name : String) (roles : Roles)
    (prepare : ActorState → ActorState) (member : Member) : Prop where
  live : member.actor.Live
  address : member.address = name
  state : ∃ chance, member.actor.state =
    prepare (ActorState.new name roles chance).recordStates

/-- A founder as it joins. -/
def Founds (enrollment : Enrollment) (member : Member) : Prop :=
  Begins enrollment.name enrollment.roles id member

/-- A newcomer as it joins, told of the embargo and of the case. -/
def Joins (record : Participant) (member : Member) : Prop :=
  Begins record.name record.roles
    (fun state => (state.moveEmbargo record.embargo).moveCase record.state)
    member

/-- To join is to stand behind all others. -/
theorem exists_join (lockStep : LockStep) (name : String) (roles : Roles)
    (prepare : ActorState → ActorState) :
    ∃ member,
      lockStep.join name roles (Actor.modify prepare) =
        .ok { lockStep with members := lockStep.members ++ [member] } ∧
      Begins name roles prepare member := by
  obtain ⟨actor, made, live, begins⟩ := Actor.exists_new name roles
    (.ofNumber lockStep.seed lockStep.entropy lockStep.members.length)
  refine ⟨⟨name, actor.modify prepare⟩, ?_, live, rfl, _,
    congrArg prepare begins⟩
  simp only [join, made]
  rfl

/-- So does a newcomer, told of the embargo and of the case. -/
theorem exists_adopt (lockStep : LockStep) (record : Participant) :
    ∃ member,
      lockStep.join record.name record.roles (Actor.adopt record) =
        .ok { lockStep with members := lockStep.members ++ [member] } ∧
      Joins record member :=
  lockStep.exists_join record.name record.roles fun state =>
    (state.moveEmbargo record.embargo).moveCase record.state

/-- Newcomers stand behind all others, each under a name that was not known. -/
theorem exists_enrolled (newcomers : List Participant)
    (lockStep : LockStep) :
    ∃ fresh : List Member,
      lockStep.enroll newcomers =
        .ok { lockStep with members := lockStep.members ++ fresh } ∧
      (∀ member ∈ fresh, ∃ record ∈ newcomers, Joins record member) ∧
      (fresh.map Member.address).Nodup ∧
      ∀ member ∈ fresh, lockStep.knows member.address = false := by
  induction newcomers generalizing lockStep with
  | nil =>
    refine ⟨[], ?_, by simp, by simp, by simp⟩
    rw [enroll, List.append_nil]
  | cons record newcomers ih =>
    rw [enroll]
    split
    next =>
      obtain ⟨fresh, enrolled, joins, distinct, unknown⟩ := ih lockStep
      refine ⟨fresh, enrolled, fun member among => ?_, distinct, unknown⟩
      rcases joins member among with ⟨other, listed, joined⟩
      exact ⟨other, List.mem_cons_of_mem _ listed, joined⟩
    next new =>
      obtain ⟨newcomer, adopted, begins⟩ := lockStep.exists_adopt record
      obtain ⟨others, enrolled, joins, distinct, unknown⟩ := ih
        { lockStep with members := lockStep.members ++ [newcomer] }
      have apart : ∀ member ∈ others,
          lockStep.knows member.address = false ∧
            newcomer.address ≠ member.address := by
        intro member among
        have unknown := unknown member among
        rw [knows, List.any_append, Bool.or_eq_false_iff] at unknown
        exact ⟨unknown.1, by simpa using unknown.2⟩
      refine ⟨newcomer :: others, ?_, ?_, ?_, ?_⟩
      · rw [List.append_assoc] at enrolled
        rw [adopted]
        exact enrolled
      · rw [List.forall_mem_cons]
        refine ⟨⟨record, List.mem_cons_self, begins⟩, fun member among => ?_⟩
        rcases joins member among with ⟨other, listed, joined⟩
        exact ⟨other, List.mem_cons_of_mem _ listed, joined⟩
      · rw [List.map_cons, List.nodup_cons]
        refine ⟨fun listed => ?_, distinct⟩
        rcases List.mem_map.mp listed with ⟨member, among, same⟩
        exact (apart member among).2 same.symm
      · rw [List.forall_mem_cons, begins.address]
        exact ⟨Bool.eq_false_iff.mpr new,
          fun member among => (apart member among).1⟩

/-- Nobody is forgotten when newcomers are admitted, and all of them are known
afterwards. -/
theorem knows_of_enroll {newcomers : List Participant}
    {lockStep next : LockStep}
    (enrolled : lockStep.enroll newcomers = .ok next) :
    (∀ address, lockStep.knows address = true → next.knows address = true) ∧
      ∀ record ∈ newcomers, next.knows record.name = true := by
  induction newcomers generalizing lockStep with
  | nil =>
    cases enrolled
    exact ⟨fun _ known => known, by simp⟩
  | cons record newcomers ih =>
    rw [enroll] at enrolled
    split at enrolled
    next known =>
      rcases ih enrolled with ⟨stays, others⟩
      exact ⟨stays, List.forall_mem_cons.mpr ⟨stays _ known, others⟩⟩
    next new =>
      obtain ⟨newcomer, adopted, begins⟩ := lockStep.exists_adopt record
      rw [adopted] at enrolled
      rcases ih enrolled with ⟨stays, others⟩
      have entered : ∀ address,
          lockStep.knows address = true ∨ newcomer.address = address →
            next.knows address = true := by
        intro address known
        apply stays
        simpa [knows] using known
      exact ⟨fun address known => entered address (.inl known),
        List.forall_mem_cons.mpr ⟨entered _ (.inr begins.address), others⟩⟩

/-- Founders stand in the order in which they are listed. -/
theorem exists_founded (participants : List Enrollment)
    (lockStep : LockStep) :
    ∃ founders : List Member,
      participants.foldlM
        (fun lockStep enrollment =>
          lockStep.join enrollment.name enrollment.roles id) lockStep =
        .ok { lockStep with members := lockStep.members ++ founders } ∧
      List.Forall₂ Founds participants founders := by
  induction participants generalizing lockStep with
  | nil =>
    refine ⟨[], ?_, .nil⟩
    rw [List.append_nil]
    rfl
  | cons enrollment participants ih =>
    obtain ⟨founder, joined, founds⟩ :=
      lockStep.exists_join enrollment.name enrollment.roles id
    obtain ⟨founders, went, others⟩ := ih
      { lockStep with members := lockStep.members ++ [founder] }
    refine ⟨founder :: founders, ?_, .cons founds others⟩
    have entered : lockStep.join enrollment.name enrollment.roles id =
        .ok { lockStep with members := lockStep.members ++ [founder] } :=
      joined
    rw [List.append_assoc] at went
    rw [List.foldlM_cons, entered]
    exact went

section Rounds

variable {charter : Charter} {founders : Nat}

/-- Admitting newcomers never fails. -/
theorem exists_enroll (newcomers : List Participant) (lockStep : LockStep)
    (admitted : ∀ record ∈ newcomers, charter.admits record)
    (governs : charter.Governs founders lockStep.members) :
    ∃ next, lockStep.enroll newcomers = .ok next ∧
      charter.Governs founders next.members := by
  obtain ⟨fresh, enrolled, joins, _⟩ := exists_enrolled newcomers lockStep
  refine ⟨_, enrolled, governs.append fun member among => ?_⟩
  rcases joins member among with ⟨record, listed, live, _, chance, begins⟩
  refine ⟨live, ?_⟩
  rw [begins]
  exact charter.joins record.name record.roles chance record
    (admitted record listed)

/-- The mail of a round changes nothing about the charter. -/
theorem Charter.Governs.foldl_route {lockStep : LockStep}
    (governs : charter.Governs founders lockStep.members)
    (messages : List Message) :
    charter.Governs founders (messages.foldl route lockStep).members := by
  refine List.foldlRecOn
    (motive := fun lockStep => charter.Governs founders lockStep.members)
    messages route governs ?_
  exact fun before governs message _ =>
    governs.follow (route_follows message before)

/-- A round never fails, and the charter governs the case after it. -/
theorem exists_round (lockStep : LockStep)
    (governs : charter.Governs founders lockStep.members) :
    ∃ next, lockStep.round = .ok next ∧
      charter.Governs founders next.members := by
  rcases tickAll_follows lockStep.members with ⟨follows, introduced⟩
  have governsTicked := governs.follow follows
  obtain ⟨admitted, enrolled, governsAdmitted⟩ := exists_enroll
    (tickAll lockStep.members).introduced
    { lockStep with
      members := (tickAll lockStep.members).members, outbox := [] }
    (by
      intro record among
      rcases introduced record among with ⟨member, listed, introducedThere⟩
      exact governsTicked.admits listed record introducedThere)
    governsTicked
  refine ⟨_, ?_, governsAdmitted.foldl_route
    (lockStep.outbox ++ (tickAll lockStep.members).sent)⟩
  simp only [round, enrolled]
  rfl

end Rounds

/-! ## Runs -/

section Redraw

variable {charter : Charter} {founders : Nat}

/-- The case when some members have been given other chance. -/
def redraw (draws : Nat → Option Chance) (lockStep : LockStep) : LockStep :=
  { lockStep with
    members := lockStep.members.mapIdx fun number member =>
      member.redraw (draws number) }

/-- No charter is about chance. -/
theorem Charter.Governs.redraw {lockStep : LockStep}
    (governs : charter.Governs founders lockStep.members)
    (draws : Nat → Option Chance) :
    charter.Governs founders (lockStep.redraw draws).members := by
  refine ⟨?_, ?_⟩
  · rw [LockStep.redraw, List.length_mapIdx]
    exact governs.1
  · intro number member found
    rw [LockStep.redraw, List.getElem?_mapIdx, Option.map_eq_some_iff] at found
    obtain ⟨earlier, listed, rfl⟩ := found
    exact charter.keeps_redrawn (draws number)
      (governs.2 number earlier listed)

end Redraw

/-- Nobody is given other chance. -/
abbrev undrawn : Nat → Nat → Option Chance := fun _ _ => none

theorem redraw_undrawn (lockStep : LockStep) (count : Nat) :
    lockStep.redraw (undrawn count) = lockStep := by
  have kept : lockStep.members.mapIdx
      (fun number member => member.redraw (undrawn count number)) =
      lockStep.members :=
    List.mapIdx_eq_iff.mpr fun _ => Option.map_id'.symm
  rw [redraw, kept]

/-- The case after some rounds, seeded or not.  Before each round members may be
given other chance, as an actor can be seeded anew at any time; in a plain run
none is. -/
def afterRedrawn (seed : Option UInt64) (entropy : Nat → Chance)
    (participants : List Enrollment) (draws : Nat → Nat → Option Chance) :
    Nat → Except BuildError LockStep
  | 0 => ofEnrollments seed entropy participants
  | count + 1 => do
    ((← afterRedrawn seed entropy participants draws count).redraw
      (draws count)).round

/-- All members of a new case are founders. -/
theorem exists_ofEnrollments (charter : Charter) (seed : Option UInt64)
    (entropy : Nat → Chance) (participants : List Enrollment) :
    ∃ lockStep, ofEnrollments seed entropy participants = .ok lockStep ∧
      charter.Governs participants.length lockStep.members := by
  obtain ⟨founders, begun, found⟩ :=
    exists_founded participants (empty seed entropy)
  refine ⟨_, begun, Nat.le_of_eq found.length_eq, ?_⟩
  intro number member listed
  rcases List.getElem?_eq_some_iff.mp listed with ⟨inside, rfl⟩
  have insideToo : number < participants.length := found.length_eq ▸ inside
  obtain ⟨live, _, chance, begins⟩ := found.get insideToo inside
  rw [Charter.keeps, if_pos insideToo]
  refine ⟨live, ?_⟩
  have founds := charter.founds (participants.get ⟨number, insideToo⟩).name
    (participants.get ⟨number, insideToo⟩).roles chance
  exact begins ▸ founds

/-- Every run of a case goes through, and the charter governs it throughout. -/
theorem exists_afterRedrawn (charter : Charter) (seed : Option UInt64)
    (entropy : Nat → Chance) (participants : List Enrollment)
    (draws : Nat → Nat → Option Chance) (count : Nat) :
    ∃ lockStep,
      afterRedrawn seed entropy participants draws count = .ok lockStep ∧
        charter.Governs participants.length lockStep.members := by
  induction count with
  | zero => exact exists_ofEnrollments charter seed entropy participants
  | succ count ih =>
    obtain ⟨before, went, governs⟩ := ih
    obtain ⟨next, wentOn, governsNext⟩ :=
      exists_round (before.redraw (draws count)) (governs.redraw _)
    refine ⟨next, ?_, governsNext⟩
    rw [afterRedrawn, went]
    exact wentOn

/-- The rounds of a run that goes on from a case lead to a case after more
rounds, as many as there may be unless all reports are closed before. -/
theorem exists_runFrom (charter : Charter) {seed : Option UInt64}
    {entropy : Nat → Chance} {participants : List Enrollment}
    (taken rounds : Nat) {lockStep : LockStep}
    (reached : afterRedrawn seed entropy participants undrawn taken =
      .ok lockStep) :
    ∃ ended last, runFrom taken rounds lockStep = .ok (ended, last) ∧
      afterRedrawn seed entropy participants undrawn ended = .ok last ∧
      ended ≤ taken + rounds ∧
      (last.allClosed = true ∨ ended = taken + rounds) := by
  induction rounds generalizing taken lockStep with
  | zero => exact ⟨taken, lockStep, rfl, reached, Nat.le_refl _, .inr rfl⟩
  | succ rounds ih =>
    rw [runFrom]
    split
    next closed =>
      exact ⟨taken, lockStep, rfl, reached, Nat.le_add_right _ _,
        .inl closed⟩
    next =>
      obtain ⟨next, went, _⟩ :=
        exists_afterRedrawn charter seed entropy participants undrawn
          (taken + 1)
      have round : lockStep.round = .ok next := by
        rw [afterRedrawn, reached] at went
        rwa [← lockStep.redraw_undrawn taken]
      rw [round]
      obtain ⟨ended, last, ran, ends, within, fully⟩ := ih (taken + 1) went
      exact ⟨ended, last, ran, ends, by omega,
        fully.imp_right fun all => by omega⟩

/-- Every run goes through, and what it reports is the case after some rounds,
which the charter governs. -/
theorem exists_run (charter : Charter) (config : Config)
    (entropy : Nat → Chance) :
    ∃ rounds lockStep, run config entropy = .ok (lockStep.report rounds) ∧
      afterRedrawn config.seed entropy config.participants undrawn rounds =
        .ok lockStep ∧
      charter.Governs config.participants.length lockStep.members ∧
      rounds ≤ config.maxTicks.toNat ∧
      (lockStep.allClosed = true ∨ rounds = config.maxTicks.toNat) := by
  obtain ⟨begun, founded, _⟩ :=
    exists_ofEnrollments charter config.seed entropy config.participants
  obtain ⟨rounds, lockStep, ran, reached, within, fully⟩ :=
    exists_runFrom charter 0 config.maxTicks.toNat founded
  obtain ⟨_, reachedToo, governs⟩ := exists_afterRedrawn charter config.seed
    entropy config.participants undrawn rounds
  cases reached.symm.trans reachedToo
  rw [Nat.zero_add] at within fully
  refine ⟨rounds, lockStep, ?_, reached, governs, within, fully⟩
  rw [run, founded]
  exact congrArg (Except.bind · fun ended => .ok (ended.2.report ended.1)) ran

end LockStep

end Disclosure
