import Disclosure.Proofs.Actor.Run
import Disclosure.Proofs.Protocol.Backdrop
import Disclosure.Proofs.Protocol.Outreach

/-!
# The priority of a report

A report has a priority above the lowest while it is accepted, and the lowest one
before it is accepted and when it is deferred, provided that accepting and
deferring are decided on whenever they are asked about.  Only one deed changes
the priority, and it does not end before the report stands where the priority
puts it; and a report that nobody works on moves between such stages only.
-/

namespace Disclosure

/-- The stages at which nobody works on the report. -/
def ReportState.idle : List ReportState :=
  [.start, .received, .invalid, .valid, .deferred]

/-- The priority is the one that goes with the stage of the report; when the
report is closed, it may be any. -/
structure ReportState.Suits (stage : ReportState) (priority : Priority) :
    Prop where
  accepted : stage = .accepted → priority ≠ .defer
  idle : stage ∈ ReportState.idle → priority = .defer

/-- Reports are accepted and deferred whenever this is asked about. -/
def Policy.Resolves (policy : Policy) : Prop :=
  ∀ number stream,
    (policy.settle number ActorState.acceptDecision stream).1 = .success ∧
      (policy.settle number ActorState.deferDecision stream).1 = .success

namespace ReportState.Suits

theorem of_idle {stage : ReportState} (idle : stage ∈ ReportState.idle) :
    stage.Suits .defer where
  accepted := by
    rintro rfl
    revert idle
    decide
  idle _ := rfl

theorem closed (priority : Priority) : Suits .closed priority where
  accepted := nofun
  idle among := absurd among (by decide)

theorem of_active {priority : Priority} (active : priority ≠ .defer) :
    Suits .accepted priority where
  accepted _ := active
  idle among := absurd among (by decide)

end ReportState.Suits

namespace ActorState

variable {state before after : ActorState}

/-! ## What leaves the priority alone -/

/-- Where the report stands, its priority, and the policy that decisions
follow. -/
def triage (state : ActorState) : ReportState × Priority × Policy :=
  (state.report, state.priority, state.arbiter.policy)

theorem triage_muses (muses : Muses before after) :
    after.triage = before.triage := by
  obtain ⟨stream, arbiter, samePolicy, rfl⟩ := Ponders.exists_eq (.single muses)
  rw [triage, samePolicy]
  rfl

@[simp]
theorem triage_setFlag (flag : CaseFlag) (state : ActorState) :
    (state.setFlag flag).triage = state.triage := by
  rw [setFlag, moveCase_eq]
  rfl

@[simp]
theorem triage_moveEmbargo (target : EmbargoState) (state : ActorState) :
    (state.moveEmbargo target).triage = state.triage := by
  rw [moveEmbargo_eq]
  rfl

@[simp]
theorem triage_announce (move : EmbargoMove) (state : ActorState) :
    (state.announce move).triage = state.triage :=
  triage_moveEmbargo move.target state

@[simp]
theorem triage_learn (state : ActorState) :
    state.learn.triage = state.triage := by
  rw [learn]
  split
  · exact triage_setFlag .vendorAware state
  · rfl

@[simp]
theorem triage_goPublic (state : ActorState) :
    state.goPublic.triage = state.triage := by
  rw [goPublic]
  split
  · rfl
  · exact triage_setFlag .publicAware state

theorem triage_hearNews (type : MessageType) (state : ActorState) :
    (state.hearNews type).triage = state.triage := by
  rw [hearNews.eq_def]
  split <;> simp

theorem triage_witness (threat : Threat) (state : ActorState) :
    (state.witness threat).triage = state.triage := by
  cases threat with
  | attack => exact triage_setFlag .attacksObserved state
  | exploit =>
    exact (triage_setFlag .exploitPublic state.goPublic).trans
      (triage_goPublic state)
  | publicReport => exact triage_setFlag .publicAware state

theorem triage_ends (ends : EndsEmbargo before after) :
    after.triage = before.triage := by
  cases ends with
  | nothing => rfl
  | withdraw => exact triage_announce .reject before
  | terminate => exact triage_announce .terminate (before.decide exitDecision).2
  | refused => rfl

theorem triage_chooseRecipient (state : ActorState) :
    state.chooseRecipient.2.triage = state.triage := by
  rw [chooseRecipient]
  split <;> rfl

theorem triage_removeRecipient (state : ActorState) :
    state.removeRecipient.triage = state.triage := by
  rw [removeRecipient]
  split <;> rfl

theorem triage_engage {candidate : Participant}
    (known : state.recipient? = some candidate) :
    state.engage.triage = state.triage := by
  rcases exists_of_recipient known with ⟨name, chosen, listed⟩
  rw [engage_eq chosen listed]
  rfl

/-! ## Deeds -/

/-- The report is where its priority puts it, and whoever works on it decides
where it goes. -/
structure Prioritized (state : ActorState) : Prop where
  resolves : state.arbiter.policy.Resolves
  suits : state.report.Suits state.priority

namespace Prioritized

theorem of_triage
    (prioritized : Prioritized before)
    (same : after.triage = before.triage) :
    Prioritized after := by
  simp only [triage, Prod.mk.injEq] at same
  rcases same with ⟨report, priority, policy⟩
  constructor
  · rw [policy]
    exact prioritized.resolves
  · rw [report, priority]
    exact prioritized.suits

theorem moveReport {stage : ReportState}
    (resolves : state.arbiter.policy.Resolves)
    (suits : stage.Suits state.priority) :
    Prioritized (state.moveReport stage) := by
  rw [moveReport_eq]
  exact ⟨resolves, suits⟩

/-- Between the stages at which nobody works on the report it is free to move. -/
theorem moveReport_idle {stage : ReportState}
    (prioritized : Prioritized state)
    (now : state.report ∈ ReportState.idle)
    (next : stage ∈ ReportState.idle) :
    Prioritized (state.moveReport stage) := by
  apply moveReport prioritized.resolves
  rw [prioritized.suits.idle now]
  exact .of_idle next

theorem discover
    (prioritized : Prioritized state)
    (nothing : state.report = .start) :
    Prioritized state.discover := by
  have received : Prioritized (state.moveReport .received) :=
    prioritized.moveReport_idle (by rw [nothing]; decide) (by decide)
  exact received.of_triage (triage_learn _)

theorem takeSubmission (prioritized : Prioritized state) :
    Prioritized state.takeSubmission := by
  rw [ActorState.takeSubmission]
  split
  next nothing =>
    have received : Prioritized (state.moveReport .received) :=
      prioritized.moveReport_idle (by rw [nothing]; decide) (by decide)
    exact received.of_triage (triage_learn _)
  next => exact prioritized.of_triage (triage_learn _)

/-- What is put off is deferred in the end. -/
theorem putOff
    (resolves : state.arbiter.policy.Resolves)
    (lowest : state.priority = .defer) :
    Prioritized state.putOff := by
  have suits : ReportState.Suits .deferred state.priority := by
    rw [lowest]
    exact .of_idle (by decide)
  simp only [ActorState.putOff]
  split
  next deferred =>
    rw [← deferred] at suits
    exact ⟨resolves, suits⟩
  next =>
    have granted : (state.decide deferDecision).1 = .success :=
      (resolves _ _).2
    have deferred : Prioritized
        ((state.decide deferDecision).2.moveReport .deferred) :=
      moveReport resolves suits
    rw [if_pos granted]
    exact deferred.of_triage rfl

/-- Whatever the priority is found to be, the report follows it. -/
theorem prioritize (prioritized : Prioritized state) :
    Prioritized state.prioritize := by
  obtain ⟨priority, _, _, _, samePolicy, evaluated⟩ := evaluatePriority_eq state
  have resolves : state.evaluatePriority.arbiter.policy.Resolves := by
    rw [evaluated, samePolicy]
    exact prioritized.resolves
  simp only [ActorState.prioritize]
  split
  next lowest => exact putOff resolves lowest
  next active =>
    have suits : ReportState.Suits .accepted state.evaluatePriority.priority :=
      .of_active active
    split
    next accepted =>
      rw [← accepted] at suits
      exact ⟨resolves, suits⟩
    next =>
      have granted : (state.evaluatePriority.decide acceptDecision).1 =
          .success :=
        (resolves _ _).1
      have accepted : Prioritized
          ((state.evaluatePriority.decide acceptDecision).2.moveReport
            .accepted) :=
        moveReport resolves suits
      rw [granted]
      exact accepted.of_triage rfl

theorem deed (prioritized : Prioritized before) (deed : Deed before after) :
    Prioritized after := by
  cases deed with
  | muse muses => exact prioritized.of_triage (triage_muses muses)
  | snapshot | takeUp | putBack | finish | acknowledge | complain | inquire
  | inject | assign => exact prioritized.of_triage rfl
  | discover _ nothing => exact prioritized.discover nothing
  | takeSubmission => exact prioritized.takeSubmission
  | follow => exact prioritized.of_triage (triage_moveEmbargo _ before)
  | hearNews _ _ ends =>
    exact prioritized.of_triage
      ((triage_ends ends).trans (triage_hearNews _ before))
  | witness threat _ ends =>
    exact prioritized.of_triage
      ((triage_ends ends).trans (triage_witness threat before))
  | announce move => exact prioritized.of_triage (triage_announce move before)
  | validate undecided | invalidate undecided =>
    have idle : before.report ∈ ReportState.idle := by
      rcases List.mem_pair.mp undecided with now | now <;> rw [now] <;> decide
    exact (prioritized.moveReport_idle idle (by decide)).of_triage rfl
  | close =>
    have closed : Prioritized (before.moveReport .closed) :=
      moveReport prioritized.resolves (.closed _)
    exact closed.of_triage rfl
  | prioritize => exact prioritized.prioritize
  | createFix => exact prioritized.of_triage (triage_setFlag .fixReady before)
  | deployFix =>
    exact prioritized.of_triage (triage_setFlag .fixDeployed before)
  | publish => exact prioritized.of_triage (triage_setFlag .publicAware before)
  | choose => exact prioritized.of_triage (triage_chooseRecipient before)
  | strike => exact prioritized.of_triage (triage_removeRecipient before)
  | engage known => exact prioritized.of_triage (triage_engage known)

theorem invariant : Invariant Prioritized where
  deliver _ _ prioritized := prioritized.of_triage rfl
  clock _ prioritized := prioritized.of_triage rfl
  clearRecord _ prioritized := prioritized.of_triage rfl
  deed _ _ prioritized done := prioritized.deed done

end Prioritized

end ActorState

/-! ## Runs -/

/--
The priority goes with the report in every run of an actor that accepts and
defers reports whenever this is asked about: the report is accepted with a
priority above the lowest only, and it has the lowest one until it is accepted and
whenever it is deferred.
-/
theorem priority_suits_report
    (name : String) (roles : Roles) (abilities : Capabilities)
    (chance : Chance) (policy : Policy) (events : List Actor.Event)
    (resolves : policy.Resolves) :
    ∃ actor, Actor.start name roles abilities chance policy = .ok actor ∧
      ((actor.play events).state.report = .accepted →
        (actor.play events).state.priority ≠ .defer) ∧
      ((actor.play events).state.report ∈
          [.start, .received, .invalid, .valid, .deferred] →
        (actor.play events).state.priority = .defer) := by
  obtain ⟨actor, started, live, begins⟩ :=
    Actor.exists_start name roles abilities chance policy
  have prioritized : actor.Has ActorState.Prioritized := by
    refine ⟨live, ?_⟩
    rw [begins]
    have starts : ReportState.Suits .start .defer := .of_idle (by decide)
    exact ⟨resolves, starts⟩
  have after := prioritized.play ActorState.Prioritized.invariant events
  exact ⟨actor, started, after.2.suits.accepted, after.2.suits.idle⟩

/-- Everything is agreed to, and whether to choose the lowest priority is left
pending. -/
def Policy.triaging : Policy :=
  .byName fun name => if name = "DeferReport" then .running else .success

/-- A vendor with nothing decided yet. -/
def startOfTriage : Except BuildError Actor :=
  Actor.start "vendor" (.ofList [.vendor]) (.ofRoles (.ofList [.vendor]))
    (.ofSeed 0) .triaging

/-- A report arrives, and two ticks follow. -/
def triageEvents : List Actor.Event :=
  [.deliver (.broadcast .reportSubmission "finder"), .tick, .tick]

theorem triage_accepts :
    startOfTriage.toOption.map
        (fun actor => (actor.play triageEvents).state.report) =
      some .accepted := by
  decide +kernel

theorem priority_suits_report_of_vendor :
    Policy.triaging.Resolves ∧
      ∃ actor, startOfTriage = .ok actor ∧
        (actor.play triageEvents).state.report = .accepted ∧
        (actor.play triageEvents).state.priority ≠ .defer := by
  have resolves : Policy.triaging.Resolves := by
    intro number stream
    exact ⟨rfl, rfl⟩
  obtain ⟨actor, started, suits, _⟩ := priority_suits_report "vendor"
    (.ofList [.vendor]) (.ofRoles (.ofList [.vendor])) (.ofSeed 0) .triaging
    triageEvents resolves
  have accepts := triage_accepts
  rw [startOfTriage, started] at accepts
  have accepted := Option.some.inj accepts
  exact ⟨resolves, actor, started, accepted, suits accepted⟩

end Disclosure
