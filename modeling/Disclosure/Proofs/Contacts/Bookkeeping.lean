import Disclosure.Proofs.Contacts.Finding

/-!
# Books about telling others

Each participant has cost one unit of the budget, was sent the report once and
was introduced once, in the same order.  Candidates know nothing of the report,
and only a candidate can be about to be told.
-/

namespace Disclosure

/-- The record of a party that was told: it has the report, and it knows of an
embargo that is not over and of nothing on the side of the vendor. -/
structure Participant.Told (participant : Participant) : Prop where
  report : participant.report = .received
  embargo : participant.embargo ≠ .exited
  vendorAware : participant.state.vendorAware = false
  fixReady : participant.state.fixReady = false
  fixDeployed : participant.state.fixDeployed = false

namespace ActorState

/-- The recipients of the messages that were sent to one party only. -/
def addressees (state : ActorState) : List String :=
  state.sent.toList.filterMap Message.recipient

/-- The books of an actor about telling others. -/
structure Books (state : ActorState) : Prop where
  budget : state.budget.toNat + state.roster.participants.length =
    reportingBudget.toNat
  addressees : state.addressees =
    state.roster.participants.map Participant.name
  /-- Only the report is sent to one party. -/
  reports : ∀ message ∈ state.sent, message.recipient ≠ none →
    message.type = .reportSubmission
  introduced : state.introduced.toList = state.roster.participants
  notifying : ∀ name, state.notifying = some name →
    ∃ candidate ∈ state.roster.potential, candidate.name = name
  candidates : ∀ candidate ∈ state.roster.potential,
    candidate.report = .start
  participants : ∀ participant ∈ state.roster.participants,
    participant.Told

namespace Books

variable {state before after : ActorState}

/-- News that goes to everybody is not in the books. -/
theorem speak (books : Books before) (speaks : Speaks before after) :
    Books after := by
  have contacts := speaks.contacts
  injection contacts with roster contacts
  injection contacts with notifying contacts
  injection contacts with budget introduced
  rcases speaks.sent with ⟨types, sent⟩
  have noDirect : (types.map fun type =>
      Message.broadcast type before.name).filterMap Message.recipient =
        [] := by
    simp [Message.broadcast]
  constructor
  · rw [budget, roster]
    exact books.budget
  · rw [ActorState.addressees, sent, List.filterMap_append, noDirect,
      List.append_nil, roster]
    exact books.addressees
  · intro message among direct
    rw [← Array.mem_toList_iff, sent] at among
    rcases List.mem_append.mp among with earlier | news
    · exact books.reports message (Array.mem_toList_iff.mp earlier) direct
    · rcases List.mem_map.mp news with ⟨type, _, rfl⟩
      exact (direct rfl).elim
  · rw [introduced, roster]
    exact books.introduced
  · rw [notifying, roster]
    exact books.notifying
  · rw [roster]
    exact books.candidates
  · rw [roster]
    exact books.participants

/-- A new candidate knows nothing. -/
theorem inject (books : Books state) (kind : String) (roles : Roles) :
    Books (state.injectCandidate kind roles) where
  budget := books.budget
  addressees := books.addressees
  reports := books.reports
  introduced := books.introduced
  notifying name chosen := by
    rcases books.notifying name chosen with ⟨candidate, among, named⟩
    exact ⟨candidate, List.mem_append_left _ among, named⟩
  candidates := by
    intro candidate among
    rcases List.mem_append.mp among with known | new
    · exact books.candidates candidate known
    · rw [List.mem_singleton.mp new]
      rfl
  participants := books.participants

/-- Only a candidate can be chosen. -/
theorem choose (books : Books state)
    (nobody : state.recipient? = none) :
    Books state.chooseRecipient.2 := by
  have chosen : ∀ name, state.chooseRecipient.2.notifying = some name →
      ∃ candidate ∈ state.roster.potential, candidate.name = name :=
    fun _ picked =>
      List.mem_map.mp (notifying_chooseRecipient picked nobody)
  simp only [chooseRecipient, nobody] at chosen ⊢
  exact { books with notifying := chosen }

theorem strike (books : Books state) : Books state.removeRecipient := by
  rw [removeRecipient]
  split
  · exact books
  · exact { books with
      notifying := by simp
      candidates := fun candidate among =>
        books.candidates candidate (List.mem_of_mem_eraseP among) }

/-- Whoever is told costs one unit, gets the report and is introduced. -/
theorem engage {candidate : Participant}
    (books : Books state)
    (known : state.recipient? = some candidate)
    (affordable : state.budget ≠ 0)
    (compatible : state.embargo ≠ .exited) :
    Books state.engage := by
  rcases exists_of_recipient known with ⟨name, chosen, listed⟩
  have named : candidate.name = name := Roster.name_of_potential listed
  rw [engage_eq chosen listed, connectRoster_eq listed]
  constructor
  · have positive : 0 < state.budget.toNat :=
      UInt32.lt_iff_toNat_lt.mp (UInt32.pos_iff_ne_zero.mpr affordable)
    have spent : (state.budget - 1).toNat = state.budget.toNat - 1 :=
      UInt32.toNat_sub_of_le _ _ (UInt32.le_iff_toNat_le.mpr positive)
    have balance := books.budget
    simp only [told, send, if_neg affordable, List.length_append,
      List.length_singleton]
    omega
  · have sent := books.addressees
    simp only [ActorState.addressees] at sent ⊢
    simp only [told, send, Array.toList_push, List.filterMap_append, sent,
      List.map_append, List.map_singleton]
    rw [← named]
    rfl
  · intro message among direct
    rcases Array.mem_push.mp among with earlier | rfl
    · exact books.reports message earlier direct
    · rfl
  · rw [Array.toList_push]
    exact congrArg (· ++ _) books.introduced
  · simp
  · exact fun other among =>
      books.candidates other (List.mem_of_mem_eraseP among)
  · intro participant among
    rcases List.mem_append.mp among with earlier | new
    · exact books.participants participant earlier
    · rw [List.mem_singleton.mp new]
      exact ⟨rfl, compatible, rfl, rfl, rfl⟩

/-- The books are kept by whatever an actor does. -/
theorem invariant : Invariant Books where
  deliver _ _ books := books.speak (.silent rfl rfl rfl)
  clock _ books := books.speak (.silent rfl rfl rfl)
  clearRecord _ books := books.speak (.silent rfl rfl rfl)
  deed before after books deed := by
    rcases deed.speaks with speaks | approaches
    · exact books.speak speaks
    · cases approaches with
      | inject => exact books.inject _ _
      | choose nobody => exact books.choose nobody
      | strike => exact books.strike
      | engage known affordable compatible =>
        exact books.engage known affordable compatible

/-- The books begin with a full budget and without any entries. -/
theorem of_beginning
    (unsent : state.sent = #[])
    (nobody : state.contacts = (.empty, none, reportingBudget, #[])) :
    Books state := by
  injection nobody with roster nobody
  injection nobody with notifying nobody
  injection nobody with budget introduced
  constructor
  · rw [budget, roster]
    rfl
  · rw [ActorState.addressees, unsent, roster]
    rfl
  · simp [unsent]
  · rw [introduced, roster]
    rfl
  · simp [notifying]
  · simp [roster, Roster.empty]
  · simp [roster, Roster.empty]

end Books

end ActorState

open ActorState

/--
Notifications are booked: after any deliveries and ticks of a new actor, whatever
is decided, the budget that is left and the number of participants add up to the
whole budget.  The recipients of the messages that were sent to one party, all of
them reports, are the participants in their order, and so are the parties that
were introduced.  Only a candidate is about to be told, no candidate knows of the
report, and all participants do.  No two parties have the same name, unless more
rows were written in the log than it has room for.
-/
theorem notifications_are_booked
    (name : String)
    (roles : Roles)
    (abilities : Capabilities)
    (chance : Chance)
    (policy : Policy)
    (events : List Actor.Event) :
    ∃ actor, Actor.start name roles abilities chance policy = .ok actor ∧
      Books (actor.play events).state ∧
      ((actor.play events).state.log.size < roomyLog →
        (actor.play events).state.roster.names.Nodup) := by
  obtain ⟨actor, started, live, begins⟩ :=
    Actor.exists_start name roles abilities chance policy
  have books : actor.Has Books := by
    refine ⟨live, ?_⟩
    rw [begins]
    exact .of_beginning rfl rfl
  have names : Names actor.state := by
    rw [begins]
    exact names_of_beginning rfl
  refine ⟨actor, started, (books.play Books.invariant events).2, ?_⟩
  intro roomy
  exact ((live.play_names names events).1 roomy).1.distinct

/-- A coordinator that hears of a report and has two ticks to tell others. -/
theorem notifications_booked_by_coordinator :
    ∃ actor,
      Actor.start "coordinator" (.ofList [.coordinator])
          (.ofRoles (.ofList [.coordinator])) (.ofSeed 0) .weighted =
        .ok actor ∧
      (actor.play
        [.deliver (.broadcast .reportSubmission "finder"), .tick,
         .tick]).state.log.size < roomyLog ∧
      Books (actor.play
        [.deliver (.broadcast .reportSubmission "finder"), .tick,
         .tick]).state ∧
      (actor.play
        [.deliver (.broadcast .reportSubmission "finder"), .tick,
         .tick]).state.roster.names.Nodup := by
  obtain ⟨actor, started, books, distinct⟩ := notifications_are_booked
    "coordinator" (.ofList [.coordinator]) (.ofRoles (.ofList [.coordinator]))
    (.ofSeed 0) .weighted
    [.deliver (.broadcast .reportSubmission "finder"), .tick, .tick]
  obtain ⟨same, startedToo, live, begins⟩ := Actor.exists_start
    "coordinator" (.ofList [.coordinator]) (.ofRoles (.ofList [.coordinator]))
    (.ofSeed 0) .weighted
  cases started.symm.trans startedToo
  have names : Names actor.state := by
    rw [begins]
    exact names_of_beginning rfl
  have rows := (live.play_names names
    [.deliver (.broadcast .reportSubmission "finder"), .tick, .tick]).2
  have none : actor.state.log.size = 0 := by
    rw [begins]
    rfl
  have roomy := Nat.lt_of_le_of_lt rows (show _ < roomyLog by
    rw [none]
    decide)
  exact ⟨actor, started, roomy, books, distinct roomy⟩

end Disclosure
