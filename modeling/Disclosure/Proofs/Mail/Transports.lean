import Disclosure.Proofs.Router.Copies
import Disclosure.Proofs.Simulation.Counting

/-!
# Two transports

A case in lock step routes to its members, and looks at the report of each to
see whether it still takes part.  A router puts mail into mailboxes, and a name
whose bearer has left was retired.  If the router has a mailbox for every member
that has not closed the report, then both give everybody the same mail and
deliver equally many copies.  A message to one member that has closed the report
is dropped by both.  They differ in one count: a broadcast to members that have
closed the report is dropped for each of them in lock step, whereas the router
broadcasts to those alone who are still there.
-/

namespace Disclosure

/-! ## Phases of a name that joins, may leave, and gets mail -/

namespace Router

variable (name : String)

theorem Phase.nextAll_append (phase : Phase)
    (earlier later : List Operation) :
    nextAll name phase (earlier ++ later) =
      nextAll name (nextAll name phase earlier) later :=
  List.foldl_append

theorem Phase.nextAll_registers (joined : List String) :
    nextAll name (awaited []) (joined.map (.register · true)) =
      if name ∈ joined then present true [] else awaited [] := by
  have stays : ∀ others : List String,
      nextAll name (present true []) (others.map (.register · true)) =
        present true [] := by
    intro others
    induction others with
    | nil => rfl
    | cons other others continues => exact continues
  induction joined with
  | nil => rfl
  | cons other joined continues =>
    rw [List.map_cons, nextAll_cons, next]
    by_cases same : other = name
    · rw [if_pos same, if_pos rfl, stays, if_pos (by simp [same])]
    · rw [if_neg same, continues]
      simp [Ne.symm same]

theorem Phase.nextAll_retires (phase : Phase) (left : List String) :
    nextAll name phase (left.map .retire) =
      if name ∈ left then gone phase.mail else phase := by
  induction left with
  | nil => rfl
  | cons other left continues =>
    rw [List.map_cons, nextAll_cons]
    by_cases same : other = name
    · have leaves : phase.next name (.retire other) = gone phase.mail := by
        cases phase with
        | awaited | present => exact if_pos same
        | gone => rfl
      rw [leaves, nextAll_gone, if_pos (by simp [same])]
    · have stays : phase.next name (.retire other) = phase := by
        cases phase with
        | awaited | present => exact if_neg same
        | gone => rfl
      rw [stays, continues]
      simp [Ne.symm same]

theorem Phase.nextAll_routes (mail messages : List Message) :
    nextAll name (present true mail) (messages.map .route) =
      present true (mail ++ messages.filter (Message.isFor name)) := by
  induction messages generalizing mail with
  | nil => exact congrArg (present true) (List.append_nil mail).symm
  | cons message messages continues =>
    rw [List.map_cons, nextAll_cons, next, deposit, continues,
      List.append_assoc, ← List.filter_append]
    rfl

/-- A router that some names have joined, each with an attended mailbox, and
some have left. -/
def opening (joined left : List String) : List Operation :=
  joined.map (.register · true) ++ left.map .retire

theorem Phase.nextAll_opening (joined left : List String) :
    nextAll name (awaited []) (opening joined left) =
      if name ∈ left then gone []
      else if name ∈ joined then present true []
      else awaited [] := by
  have empty :
      (if name ∈ joined then present true [] else awaited []).mail = [] := by
    split <;> rfl
  rw [opening, nextAll_append, nextAll_registers, nextAll_retires, empty]

variable {name}

/-- Who has joined and not left is registered. -/
theorem isRegistered_opening (joined left : List String) :
    (performAll (opening joined left)).isRegistered name = true ↔
      name ∈ joined ∧ name ∉ left := by
  have stands := StandsAt.performAll (opening joined left) name
  rw [stands.isRegistered_eq, Phase.nextAll_opening]
  split
  next gone => simp [Phase.isPresent, gone]
  next stays =>
    split
    next came => simp [Phase.isPresent, came, stays]
    next absent => simp [Phase.isPresent, absent]

/-- Exactly those who have left are retired. -/
theorem retired_opening (joined left : List String) :
    (performAll (opening joined left)).retired.contains name = true ↔
      name ∈ left := by
  have stands := StandsAt.performAll (opening joined left) name
  rw [Phase.nextAll_opening] at stands
  split at stands
  next gone => simpa only [gone, iff_true] using stands.2.2
  next stays =>
    split at stands
    next => simp only [stands.2, stays, Bool.false_eq_true]
    next => simp only [stands.2.1, stays, Bool.false_eq_true]

/-- No name is registered twice at a time. -/
theorem nodup_performAll (operations : List Operation) :
    (performAll operations).registered.Nodup := by
  have distinct := nodup_undergoAll (operations.map .operation)
  rwa [undergoAll, List.foldl_map] at distinct

@[simp]
theorem retired_route (router : Router) (message : Message) :
    (router.route message).retired = router.retired := by
  rw [route]
  split
  · rfl
  · split
    · rfl
    · split <;> rfl

/-- As long as nothing is routed there is nothing to count. -/
theorem total_entrusted_of_not_routed (router : Router)
    {operations : List Operation} (unused : routed operations = []) :
    total entrusted router (operations.map .operation) = 0 := by
  induction operations generalizing router with
  | nil => rfl
  | cons operation later continues =>
    rw [List.map_cons, total]
    cases operation with
    | register => exact (Nat.zero_add _).trans (continues _ unused)
    | retire => exact (Nat.zero_add _).trans (continues _ unused)
    | route message => cases unused

theorem routed_opening (joined left : List String) :
    routed (opening joined left) = [] := by
  simp [routed, opening, List.filterMap_map, Function.comp_def,
    Operation.message?]

theorem counted_opening (joined left : List String) :
    (performAll (opening joined left)).counted = 0 := by
  have distinct : empty.registered.Nodup := List.nodup_nil
  have counts := foldl_undergo_counted distinct
    ((opening joined left).map .operation)
  rw [List.foldl_map,
    total_entrusted_of_not_routed empty (routed_opening joined left)] at counts
  exact (Nat.add_eq_zero_iff.mp counts).1

/-! ## A router all of whose mailboxes are attended -/

/-- Somebody takes mail out of every mailbox. -/
def Attended (router : Router) : Prop :=
  ∀ mailbox ∈ router.mailboxes, mailbox.attended = true

section Attended

variable {router : Router}

theorem Attended.map {change : Mailbox → Mailbox}
    (attended : router.Attended)
    (keeps : ∀ mailbox, (change mailbox).attended = mailbox.attended) :
    ∀ mailbox ∈ router.mailboxes.map change, mailbox.attended = true := by
  intro mailbox among
  rcases List.mem_map.mp among with ⟨before, listed, rfl⟩
  exact (keeps before).trans (attended before listed)

theorem Attended.deliver (attended : router.Attended) (message : Message)
    (selects : Mailbox → Bool) :
    (router.deliver message selects).Attended := by
  refine attended.map fun mailbox => ?_
  split <;> rfl

theorem Attended.route (attended : router.Attended) (message : Message) :
    (router.route message).Attended := by
  rw [Router.route]
  split
  · exact attended.deliver message _
  · split
    · exact attended
    · split
      · exact attended.deliver message _
      · exact attended

theorem Attended.register (attended : router.Attended) (name : String) :
    (router.register name true).2.Attended := by
  rw [Router.register]
  split
  · exact attended
  · intro mailbox among
    rcases List.mem_append.mp among with before | new
    · exact attended mailbox before
    · rw [List.mem_singleton.mp new]

theorem Attended.retire (attended : router.Attended) (name : String) :
    (router.retire name).Attended := by
  refine attended.map fun mailbox => ?_
  split <;> rfl

theorem Attended.opening (joined left : List String) :
    (performAll (Router.opening joined left)).Attended := by
  refine List.foldlRecOn (motive := Attended) _ perform
    (fun mailbox among => (List.not_mem_nil among).elim)
    fun before attended operation among => ?_
  rcases List.mem_append.mp among with joins | leaves
  · rcases List.mem_map.mp joins with ⟨name, _, rfl⟩
    exact attended.register name
  · rcases List.mem_map.mp leaves with ⟨name, _, rfl⟩
    exact attended.retire name

/-- Nothing is dropped on delivery, and each mailbox that is selected gets a
copy. -/
theorem Attended.deliver_counts (attended : router.Attended)
    (message : Message) (selects : String → Bool) :
    (router.deliver message fun mailbox => selects mailbox.name).delivered =
        router.delivered + router.registered.countP selects ∧
      (router.deliver message fun mailbox => selects mailbox.name).dropped =
        router.dropped := by
  have nothing : (router.deliver message fun mailbox =>
      selects mailbox.name).dropped = router.dropped := by
    refine (Nat.add_eq_left).mpr (List.countP_eq_zero.mpr ?_)
    intro mailbox selected
    simp [attended mailbox (List.mem_of_mem_filter selected)]
  have all := router.deliver_counted message selects
  have held : (router.deliver message fun mailbox =>
      selects mailbox.name).undelivered = router.undelivered := rfl
  rw [counted, counted, nothing, held] at all
  exact ⟨by omega, nothing⟩

end Attended

end Router

/-! ## A case and a router side by side -/

namespace LockStep

variable {lockStep : LockStep} {members : List Member} {router : Router}
  {message : Message}

/-- How many members a broadcast does not reach, since they have closed the
report. -/
def missed (lockStep : LockStep) (message : Message) : Nat :=
  if message.isBroadcast then
    lockStep.members.countP fun member =>
      member.address != message.sender && member.actor.isClosed
  else 0

/-- Whether a message is for one member alone, which has closed the report. -/
def isLate (lockStep : LockStep) (message : Message) : Bool :=
  lockStep.members.any fun member =>
    message.recipient == some member.address && member.actor.isClosed

theorem isLate_of_broadcast (broadcast : message.recipient = none) :
    lockStep.isLate message = false := by
  simp [isLate, broadcast]

theorem isLate_of_direct (orderly : Orderly lockStep.members)
    {member : Member} (among : member ∈ lockStep.members)
    (addressed : message.recipient = some member.address) :
    lockStep.isLate message = member.actor.isClosed := by
  rw [Bool.eq_iff_iff, isLate, List.any_eq_true]
  constructor
  · rintro ⟨other, listed, late⟩
    rw [addressed, Bool.and_eq_true, beq_iff_eq, Option.some_inj] at late
    rw [orderly.eq_of_address among listed late.1]
    exact late.2
  · intro closed
    exact ⟨member, among, by simp [addressed, closed]⟩

/-- Where the members go by their addresses, a broadcast is delivered to those
others that are open and dropped for those that are closed. -/
theorem routeToAll_counts (message : Message)
    (named : ∀ member ∈ members, member.actor.name = member.address) :
    (routeToAll message members).2 =
      (members.countP (fun member =>
          member.address != message.sender && !member.actor.isClosed),
        members.countP fun member =>
          member.address != message.sender && member.actor.isClosed) := by
  induction members with
  | nil => rfl
  | cons member members ih =>
    have rest := ih fun other among => named other (by simp [among])
    simp only [routeToAll, List.countP_cons, rest, named member (by simp)]
    by_cases own : member.address = message.sender
    · simp [own]
    · cases closed : member.actor.isClosed <;> simp [own]

/-- The addresses of those who have not closed the report. -/
def active (members : List Member) : List String :=
  (members.filter fun member => !member.actor.isClosed).map Member.address

theorem Orderly.active_nodup (orderly : Orderly members) :
    (active members).Nodup :=
  orderly.distinct.sublist (List.filter_sublist.map _)

/-- Exactly the open members are registered, exactly the closed ones of all
members are retired, and all mailboxes are attended. -/
structure Mirrors (router : Router) (members : List Member) : Prop where
  registered : router.registered.Perm (active members)
  retired : ∀ member ∈ members,
    router.retired.contains member.address = member.actor.isClosed
  attended : router.Attended

/-- Routing closes no report. -/
theorem active_collect (messages : List Message) (members : List Member) :
    active (members.map (Member.collect messages)) = active members := by
  simp [active, List.filter_map, Function.comp_def]

namespace Mirrors

/-- A test of names counts the same on both sides. -/
theorem countP_registered (mirrors : Mirrors router members)
    (selects : String → Bool) :
    router.registered.countP selects =
      members.countP fun member =>
        selects member.address && !member.actor.isClosed := by
  rw [mirrors.registered.countP_eq, active, List.countP_map,
    List.countP_filter]
  rfl

theorem route (mirrors : Mirrors router members) (message : Message) :
    Mirrors (router.route message)
      (members.map (Member.collect [message])) := by
  constructor
  · rw [Router.registered_route, active_collect]
    exact mirrors.registered
  · intro member among
    rcases List.mem_map.mp among with ⟨before, listed, rfl⟩
    rw [Router.retired_route, Member.address_collect,
      Member.isClosed_collect]
    exact mirrors.retired before listed
  · exact mirrors.attended.route message

/-- Who is open is registered, and not retired. -/
theorem present (mirrors : Mirrors router members) {member : Member}
    (among : member ∈ members) (opened : ¬ member.actor.isClosed = true) :
    router.isRegistered member.address = true := by
  rw [← Router.mem_registered, mirrors.registered.mem_iff, active]
  exact List.mem_map_of_mem
    (List.mem_filter.mpr ⟨among, by simpa using opened⟩)

end Mirrors

/-! ## Counts -/

/-- The counts agree, but for so many copies that are missed by broadcasts and
dropped in lock step only; those that are late are dropped by both.  Nobody is
missing on either side. -/
structure Tallies (lockStep : LockStep) (router : Router)
    (late missed : Nat) : Prop where
  delivered : lockStep.delivered = router.delivered
  late : router.dropped = late
  dropped : lockStep.dropped = router.dropped + missed
  undelivered : lockStep.undelivered = 0
  held : router.undelivered = 0

namespace Tallies

variable {late missed : Nat}

theorem route_broadcast (tallies : Tallies lockStep router late missed)
    (orderly : Orderly lockStep.members)
    (mirrors : Mirrors router lockStep.members)
    (broadcast : message.recipient = none) :
    Tallies (lockStep.route message) (router.route message) late
      (missed + lockStep.missed message) := by
  have counts := mirrors.attended.deliver_counts message
    (· != message.sender)
  rw [mirrors.countP_registered] at counts
  have fates := routeToAll_counts message orderly.named
  have missedHere : lockStep.missed message =
      (routeToAll message lockStep.members).2.2 := by
    rw [fates, LockStep.missed, Message.isBroadcast, broadcast]
    rfl
  rw [LockStep.route, Router.route, broadcast]
  refine ⟨?_, counts.2.trans tallies.late, ?_, tallies.undelivered,
    tallies.held⟩
  · change lockStep.delivered + (routeToAll message lockStep.members).2.1 = _
    rw [counts.1, fates, tallies.delivered]
  · change lockStep.dropped + (routeToAll message lockStep.members).2.2 = _
    rw [counts.2, missedHere, tallies.dropped, Nat.add_assoc]

theorem route_direct (tallies : Tallies lockStep router late missed)
    (orderly : Orderly lockStep.members)
    (mirrors : Mirrors router lockStep.members)
    {recipient : String}
    (addressed : message.recipient = some recipient)
    (known : lockStep.knows recipient = true) :
    Tallies (lockStep.route message) (router.route message)
      (late + (lockStep.isLate message).toNat) missed := by
  obtain ⟨actor, found⟩ := exists_actor known
  have spec := lockStep.actor?_spec recipient
  rw [found] at spec
  rcases spec with ⟨member, among, rfl, rfl⟩
  have retired := mirrors.retired member among
  rw [isLate_of_direct orderly among addressed]
  simp only [LockStep.route, Router.route, addressed, found]
  by_cases closed : member.actor.isClosed = true
  · rw [if_pos closed, if_pos (retired.trans closed), closed]
    refine ⟨tallies.delivered, congrArg (· + 1) tallies.late, ?_,
      tallies.undelivered, tallies.held⟩
    rw [tallies.dropped]
    exact Nat.add_right_comm ..
  · have stays : ¬ router.retired.contains member.address = true := by
      rwa [retired]
    have present := mirrors.present among closed
    have once : router.registered.countP (· == member.address) = 1 :=
      List.count_eq_one_of_mem
        (mirrors.registered.nodup_iff.mpr orderly.active_nodup)
        (Router.mem_registered.mpr present)
    have counts := mirrors.attended.deliver_counts message
      (· == member.address)
    rw [once] at counts
    rw [if_neg closed, if_neg stays, if_pos present,
      Bool.eq_false_iff.mpr closed]
    refine ⟨?_, counts.2.trans tallies.late, ?_, tallies.undelivered,
      tallies.held⟩
    · exact (congrArg (· + 1) tallies.delivered).trans counts.1.symm
    · exact tallies.dropped.trans (congrArg (· + missed) counts.2.symm)

theorem route (tallies : Tallies lockStep router late missed)
    (orderly : Orderly lockStep.members)
    (mirrors : Mirrors router lockStep.members)
    (addressed : ∀ recipient, message.recipient = some recipient →
      lockStep.knows recipient = true) :
    Tallies (lockStep.route message) (router.route message)
      (late + (lockStep.isLate message).toNat)
      (missed + lockStep.missed message) := by
  cases addressee : message.recipient with
  | none =>
    rw [isLate_of_broadcast addressee]
    exact tallies.route_broadcast orderly mirrors addressee
  | some recipient =>
    have direct : lockStep.missed message = 0 := by
      simp [LockStep.missed, Message.isBroadcast, addressee]
    rw [direct]
    exact tallies.route_direct orderly mirrors addressee
      (addressed recipient addressee)

end Tallies

/-! ## Many messages -/

/-- Who is missed by a broadcast is not changed by routing. -/
theorem missed_route (orderly : Orderly lockStep.members)
    (earlier message : Message) :
    (lockStep.route earlier).missed message = lockStep.missed message := by
  rw [missed, missed, route_members orderly, List.countP_map]
  simp [Function.comp_def]

/-- Nor is who has closed the report. -/
theorem isLate_route (orderly : Orderly lockStep.members)
    (earlier message : Message) :
    (lockStep.route earlier).isLate message = lockStep.isLate message := by
  rw [isLate, isLate, route_members orderly, List.any_map]
  simp [Function.comp_def]

/-- The counts keep to each other over any number of messages. -/
theorem Tallies.foldl_route {late missed : Nat}
    (tallies : Tallies lockStep router late missed)
    (orderly : Orderly lockStep.members)
    (mirrors : Mirrors router lockStep.members)
    (messages : List Message)
    (addressed : ∀ message ∈ messages, ∀ recipient,
      message.recipient = some recipient → lockStep.knows recipient = true) :
    Tallies (messages.foldl LockStep.route lockStep)
      (messages.foldl Router.route router)
      (late + messages.countP lockStep.isLate)
      (missed + (messages.map lockStep.missed).sum) := by
  induction messages generalizing lockStep router late missed with
  | nil => exact tallies
  | cons message messages continues =>
    have members := route_members orderly message
    have addresses := addresses_route orderly message
    have first := tallies.route orderly mirrors
      (addressed message List.mem_cons_self)
    have rest := continues first
      (members ▸ orderly.collect [message])
      (members ▸ mirrors.route message)
      (by
        intro other among recipient direct
        rw [knows_iff, addresses, ← knows_iff]
        exact addressed other (List.mem_cons_of_mem _ among) recipient direct)
    have sameMissed : messages.map (lockStep.route message).missed =
        messages.map lockStep.missed :=
      List.map_congr_left fun other _ => missed_route orderly message other
    have sameLate : (lockStep.route message).isLate = lockStep.isLate :=
      funext fun other => isLate_route orderly message other
    rw [sameMissed, sameLate, Nat.add_assoc, Nat.add_assoc,
      Nat.add_comm (lockStep.isLate message).toNat] at rest
    rw [List.countP_cons]
    cases here : lockStep.isLate message with
    | true | false =>
      rw [here] at rest
      exact rest

/-! ## A router that is set up for a case -/

/-- The names of a case have joined the router, and exactly those who have closed
the report have left it again. -/
structure Enters (lockStep : LockStep) (joined left : List String) : Prop where
  joined : ∀ name, name ∈ joined ↔ lockStep.knows name = true
  left : ∀ name, name ∈ left ↔
    ∃ member ∈ lockStep.members,
      member.address = name ∧ member.actor.isClosed = true

section Setup

variable {joined left : List String}

theorem Enters.mem_left (enters : lockStep.Enters joined left)
    (orderly : Orderly lockStep.members) {member : Member}
    (among : member ∈ lockStep.members) :
    member.address ∈ left ↔ member.actor.isClosed = true := by
  rw [enters.left]
  constructor
  · rintro ⟨other, listed, same, closed⟩
    rwa [orderly.eq_of_address among listed same.symm]
  · exact fun closed => ⟨member, among, rfl, closed⟩

theorem Enters.mirrors (enters : lockStep.Enters joined left)
    (orderly : Orderly lockStep.members) :
    Mirrors (Router.performAll (Router.opening joined left))
      lockStep.members := by
  constructor
  · refine (List.perm_ext_iff_of_nodup ?_ ?_).mpr fun name => ?_
    · exact Router.nodup_performAll _
    · exact orderly.active_nodup
    · rw [Router.mem_registered, Router.isRegistered_opening, enters.joined,
        knows_iff, active, List.mem_map, List.mem_map]
      constructor
      · rintro ⟨⟨member, among, rfl⟩, stays⟩
        rw [enters.mem_left orderly among] at stays
        exact ⟨member, List.mem_filter.mpr ⟨among, by simpa using stays⟩, rfl⟩
      · rintro ⟨member, takesPart, rfl⟩
        rcases List.mem_filter.mp takesPart with ⟨among, opened⟩
        refine ⟨⟨member, among, rfl⟩, ?_⟩
        rw [enters.mem_left orderly among]
        simpa using opened
  · intro member among
    rw [Bool.eq_iff_iff, Router.retired_opening,
      enters.mem_left orderly among]
  · exact Router.Attended.opening joined left

/-- The mailbox of an open member holds what was routed to it, and that of a
closed one is empty. -/
theorem Enters.mail (enters : lockStep.Enters joined left)
    (orderly : Orderly lockStep.members) (messages : List Message)
    {member : Member} (among : member ∈ lockStep.members) :
    ((Router.performAll (Router.opening joined left ++
        messages.map .route)).drain member.address).1 =
      if member.actor.isClosed then []
      else messages.filter (Message.isFor member.address) := by
  have joins : member.address ∈ joined :=
    (enters.joined _).mpr (knows_iff.mpr (List.mem_map_of_mem among))
  rw [(Router.StandsAt.performAll _ member.address).drain,
    Router.Phase.nextAll_append, Router.Phase.nextAll_opening]
  by_cases closed : member.actor.isClosed = true
  · rw [if_pos closed, if_pos ((enters.mem_left orderly among).mpr closed),
      Router.Phase.nextAll_gone]
    rfl
  · rw [if_neg closed,
      if_neg (mt (enters.mem_left orderly among).mp closed), if_pos joins,
      Router.Phase.nextAll_routes]
    rfl

theorem Enters.tallies
    (unused : lockStep.delivered = 0 ∧ lockStep.dropped = 0 ∧
      lockStep.undelivered = 0) :
    Tallies lockStep (Router.performAll (Router.opening joined left)) 0 0 := by
  have counted := Router.counted_opening joined left
  rw [Router.counted] at counted
  constructor <;> omega

end Setup

/--
The case in lock step and the router agree.  The members have different names,
and exactly those who have closed the report were retired from the router after
they had been registered; nothing was counted before.  Of any broadcasts and of
direct messages to members, every open member gets the same in the same order
from both; both deliver equally many copies, and hold none.  The router drops
exactly the direct messages to closed members.  The case drops these as well,
and beyond that it counts a drop for every closed member but the sender of a
broadcast.
-/
theorem transports_agree
    {joined left : List String}
    (orderly : Orderly lockStep.members)
    (unused : lockStep.delivered = 0 ∧ lockStep.dropped = 0 ∧
      lockStep.undelivered = 0)
    (enters : lockStep.Enters joined left)
    (messages : List Message)
    (addressed : ∀ message ∈ messages, ∀ recipient,
      message.recipient = some recipient → lockStep.knows recipient = true) :
    let routed := messages.foldl LockStep.route lockStep
    let router := Router.performAll
      (Router.opening joined left ++ messages.map .route)
    routed.members = lockStep.members.map (fun member =>
        { member with
          actor := member.actor.modify fun state =>
            { state with
              inbox := state.inbox ++ (router.drain member.address).1 } }) ∧
      routed.delivered = router.delivered ∧
      routed.undelivered = 0 ∧ router.undelivered = 0 ∧
      router.dropped = messages.countP lockStep.isLate ∧
      routed.dropped =
        router.dropped + (messages.map lockStep.missed).sum := by
  intro routed router
  have counts := (Enters.tallies unused).foldl_route orderly
    (enters.mirrors orderly) messages addressed
  have sameRouter : messages.foldl Router.route
      (Router.performAll (Router.opening joined left)) = router := by
    simp only [router, Router.performAll, List.foldl_append, List.foldl_map]
    rfl
  rw [sameRouter, Nat.zero_add, Nat.zero_add] at counts
  refine ⟨?_, counts.delivered, counts.undelivered, counts.held, counts.late,
    counts.dropped⟩
  rw [(foldl_route orderly messages).1]
  refine List.map_congr_left fun member among => ?_
  rw [enters.mail orderly messages among, Member.collect, Member.receive_eq]

/-- A coordinator and a vendor that has closed the report. -/
def withClosedVendor : Except BuildError LockStep := do
  let lockStep ← ofEnrollments (some 0) default
    [⟨"coordinator", .ofList [.coordinator]⟩, ⟨"vendor", .ofList [.vendor]⟩]
  return lockStep.modifyActor "vendor"
    (·.modify fun state => { state with report := .closed })

/-- An inquiry of the coordinator to everybody. -/
def inquiry : Message := .broadcast .inquiry "coordinator"

/-- The case is built, a router can be set up for it, and in lock step the vendor
counts as dropped when the coordinator broadcasts. -/
theorem exists_withClosedVendor :
    ∃ lockStep, withClosedVendor = .ok lockStep ∧
      Orderly lockStep.members ∧
      (lockStep.delivered = 0 ∧ lockStep.dropped = 0 ∧
        lockStep.undelivered = 0) ∧
      lockStep.Enters ["coordinator", "vendor"] ["vendor"] ∧
      (lockStep.members.map Member.address = ["coordinator", "vendor"] ∧
        (lockStep.route inquiry).dropped = 1) := by
  have evaluated : withClosedVendor.toOption.map (fun lockStep =>
      (lockStep.members.map fun member =>
          (member.address, member.actor.name, member.actor.isClosed),
        lockStep.delivered, lockStep.dropped, lockStep.undelivered,
        (lockStep.route inquiry).dropped)) =
      some ([("coordinator", "coordinator", false),
        ("vendor", "vendor", true)], 0, 0, 0, 1) := by
    decide +kernel
  cases built : withClosedVendor with
  | error error =>
    rw [built] at evaluated
    cases evaluated
  | ok lockStep =>
    rw [built] at evaluated
    have all := Option.some.inj evaluated
    simp only [Prod.mk.injEq] at all
    rcases all with ⟨parties, delivered, dropped, undelivered, drops⟩
    obtain ⟨coordinator, others, listed, first, second⟩ :=
      List.map_eq_cons_iff.mp parties
    obtain ⟨vendor, rfl, last⟩ := List.map_eq_singleton_iff.mp second
    simp only [Prod.mk.injEq] at first last
    have orderly : Orderly lockStep.members := by
      rw [listed]
      constructor
      · simp [first.1, last.1]
      · simp [first, last]
    have addresses : lockStep.members.map Member.address =
        ["coordinator", "vendor"] := by
      simp [listed, first.1, last.1]
    refine ⟨lockStep, rfl, orderly, ⟨delivered, dropped, undelivered⟩,
      ⟨?_, ?_⟩, addresses, drops⟩
    · intro name
      rw [knows_iff, addresses]
    · intro name
      simp [listed, first, last, eq_comm (a := name)]

/-- The vendor that has closed the report counts as dropped for one transport
only when the coordinator broadcasts. -/
theorem broadcast_is_dropped_in_lock_step_only :
    ∃ lockStep, withClosedVendor = .ok lockStep ∧
      Orderly lockStep.members ∧
      (lockStep.delivered = 0 ∧ lockStep.dropped = 0 ∧
        lockStep.undelivered = 0) ∧
      lockStep.Enters ["coordinator", "vendor"] ["vendor"] ∧
      lockStep.Routable inquiry ∧
      ([inquiry].foldl LockStep.route lockStep).dropped = 1 ∧
      (Router.performAll
        (Router.opening ["coordinator", "vendor"] ["vendor"] ++
          [inquiry].map .route)).dropped = 0 := by
  obtain ⟨lockStep, built, orderly, unused, enters, addresses, drops⟩ :=
    exists_withClosedVendor
  refine ⟨lockStep, built, orderly, unused, enters, ⟨?_, ?_⟩, drops, ?_⟩
  · rw [knows_iff, addresses]
    decide
  · intro recipient direct
    cases direct
  · decide +kernel

/-- The coordinator gets what the vendor broadcast, and the vendor, to whom one
message is sent directly as well, gets nothing. -/
theorem transports_agree_with_closed_vendor :
    let fix : Message := .broadcast .fixReady "vendor"
    let report : Message :=
      ⟨.reportSubmission, "coordinator", some "vendor", .null⟩
    let messages := [inquiry, report, fix]
    let router := Router.performAll
      (Router.opening ["coordinator", "vendor"] ["vendor"] ++
        messages.map .route)
    (router.drain "coordinator").1 = [fix] ∧ router.dropped = 1 ∧
    ∃ lockStep, withClosedVendor = .ok lockStep ∧
      ((messages.foldl LockStep.route lockStep).members.map fun member =>
          member.actor.state.inbox) =
        lockStep.members.map (fun member =>
          member.actor.state.inbox ++ (router.drain member.address).1) ∧
      (messages.foldl LockStep.route lockStep).delivered =
        router.delivered ∧
      router.dropped = messages.countP lockStep.isLate ∧
      (messages.foldl LockStep.route lockStep).dropped =
        router.dropped + (messages.map lockStep.missed).sum := by
  intro fix report messages router
  refine ⟨rfl, rfl, ?_⟩
  obtain ⟨lockStep, built, orderly, unused, enters, addresses, _⟩ :=
    exists_withClosedVendor
  have addressed : ∀ message ∈ messages, ∀ recipient,
      message.recipient = some recipient →
        lockStep.knows recipient = true := by
    intro message among recipient direct
    rw [knows_iff, addresses]
    simp only [messages, List.mem_cons, List.not_mem_nil, or_false] at among
    rcases among with rfl | rfl | rfl
    · cases direct
    · cases direct
      decide
    · cases direct
  have agree := transports_agree orderly unused enters messages addressed
  refine ⟨lockStep, built, ?_, agree.2.1, agree.2.2.2.2⟩
  rw [agree.1, List.map_map]
  rfl

end LockStep

end Disclosure
