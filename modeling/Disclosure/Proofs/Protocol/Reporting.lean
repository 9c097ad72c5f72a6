import Disclosure.Proofs.Protocol.Backdrop
import Disclosure.Proofs.Protocol.Mail

/-!
# Steps with a report

Discovering, validating, prioritizing and closing are deeds, one of them in each
tick of the tree at most.
-/

namespace Disclosure.Behavior

open ActorState Deliberation

variable {bound : Nat}

/-- Deliberation that ends in any deed, if in anything. -/
abbrev doing : Deliberation ActorState := deliberating true Deed

/-- Whatever ends in one deed at most is a matter of deeds. -/
theorem deeds_of_ends {acts : ActorState → ActorState → Prop}
    {before after : ActorState} {status : Status}
    (deed : ∀ middle, acts middle after → Deed middle after)
    (ends : (deliberating true acts).Ends before status after) :
    Deeds before after := by
  rcases ends with ⟨_, ponders | ⟨_, middle, ponders, act⟩⟩
  · exact .of_ponders ponders
  · exact (Deeds.of_ponders ponders).tail (deed middle act)

/-- A move of the report and its announcement, at the end of a sequence. -/
theorem covers_moveReport {deliberation : Deliberation ActorState}
    {name : String} (target : ReportState) (type : MessageType)
    (acts : ∀ before, deliberation.known before →
      before.report = target ∨ before.report ∈ target.allowedFrom →
      deliberation.acts before ((before.moveReport target).broadcast type)) :
    deliberation.Covers bound
      (Spec.sequence name [toReport target, emit type]) := by
  intro before known
  rw [Spec.ensures_sequence_cons, ensures_toReport]
  by_cases opened : before.report = target ∨
      before.report ∈ target.allowedFrom
  · rw [if_pos opened, if_pos rfl, Spec.ensures_sequence_singleton,
      ensures_emit]
    exact ends_of_acts (acts before known opened)
  · rw [if_neg opened, if_neg (by decide)]
    exact ends_of_ponders deliberation.failure .refl

/-! ## Discovery -/

/-- The discovery of a vulnerability by an actor without a report. -/
def Discovers (before after : ActorState) : Prop :=
  before.abilities.discoverVulnerability = true ∧ before.report = .start ∧
    after = before.discover

/-- Looking for a vulnerability ends in its discovery, if in anything. -/
theorem covers_discoverVulnerability :
    (deliberating true Discovers).Covers bound discoverVulnerability := by
  refine .unless (fun _ _ => ensures_reportNotIn _) (fun _ _ _ => rfl)
    (.orElse ?find (.orElse (covers_decision _ _) (covers_fallback_nil _)))
  refine .guard (fun _ _ => Spec.ensures_condition _) (fun _ _ _ => rfl)
    (.decide (.decide ?_))
  rintro before ⟨⟨_, nothing⟩, able⟩
  have start : before.report = .start := by simpa using nothing
  have opened : before.report = .received ∨
      before.report ∈ ReportState.received.allowedFrom := by
    simp [start, ReportState.allowedFrom]
  rw [Spec.ensures_sequence_cons, ensures_toReport, if_pos opened, if_pos rfl,
    Spec.ensures_sequence_cons, ensures_emit, if_pos rfl,
    Spec.ensures_sequence_singleton, ensures_learn]
  exact ends_of_acts ⟨able, start, rfl⟩

/-! ## Validation -/

theorem covers_ensureValidationInfo {deliberation : Deliberation ActorState} :
    deliberation.Covers bound ensureValidationInfo :=
  .orElse (covers_decision _ _)
    (.orElse (.decide (.decide (covers_sequence_nil _)))
      (covers_fallback_nil _))

/-- A report that was not found valid yet is found valid or invalid. -/
def Validates (before after : ActorState) : Prop :=
  before.report ∈ [.received, .invalid] ∧
    (after = (before.moveReport .valid).broadcast .reportValid ∨
      after = (before.moveReport .invalid).broadcast .reportInvalid)

theorem Validates.deed {before after : ActorState}
    (validates : Validates before after) :
    Deed before after := by
  rcases validates with ⟨undecided, rfl | rfl⟩
  · exact .validate undecided
  · exact .invalidate undecided

/-- Evaluating a report makes it valid, if anything. -/
theorem covers_evaluateReport :
    (deliberating true Validates).Covers bound evaluateReport := by
  refine .guard (fun _ _ => ensures_inAny reportAxis _ _) (fun _ _ _ => rfl)
    (.decide (.decide (.last (covers_moveReport _ _ ?_))))
  rintro before ⟨_, undecided⟩ _
  exact ⟨of_decide_eq_true undecided, .inl rfl⟩

/-- Validation ends in a verdict, if in anything. -/
theorem covers_validateReport :
    (deliberating true Validates).Covers bound validateReport := by
  refine .orElse ?valid (.orElse ?invalid (.orElse covers_evaluateReport
    (.orElse ?invalidate (covers_fallback_nil _))))
  case valid => exact covers_question fun _ _ => ensures_reportIn _
  case invalid =>
    exact .think (covers_question fun _ _ => ensures_reportIn _)
      (.last covers_ensureValidationInfo)
  case invalidate =>
    apply covers_moveReport _ _
    rintro before _ opened
    refine ⟨?_, .inr rfl⟩
    rcases opened with invalid | received
    · simp [invalid]
    · simp_all [ReportState.allowedFrom]

/-! ## Closing -/

/-- Nothing keeps a report open that was deployed, deferred or found invalid. -/
def closureDue (state : ActorState) : Bool :=
  state.caseState.has .fixDeployed ||
    (decide (state.report = .deferred) ||
      (decide (state.report = .invalid) || false))

/-- A report is closed that nothing keeps open. -/
def Closes (before after : ActorState) : Prop :=
  before.report ∈ ReportState.closable ∧
    (before.report = .accepted → before.caseState.fixDeployed = true) ∧
    after = (before.moveReport .closed).broadcast .reportClosed

theorem Closes.deed {before after : ActorState}
    (closes : Closes before after) :
    Deed before after := by
  rcases closes with ⟨closable, deployed, rfl⟩
  exact .close closable deployed

/-- Closing ends in a closed report, if in anything. -/
theorem covers_closeReport :
    (deliberating true Closes).Covers bound closeReport := by
  refine .unless (fun _ _ => ensures_reportIn _) (fun _ _ _ => rfl)
    (.orElse ?close (covers_fallback_nil _))
  have due : (Spec.fallback "DeployedDeferredOrInvalid"
      [caseHas .fixDeployed, reportIn .deferred,
        reportIn .invalid]).Finds bound closureDue :=
    Spec.finds_orElse (fun _ _ => ensures_caseHas _)
      (Spec.finds_orElse (fun _ _ => ensures_reportIn _)
        (Spec.finds_orElse (fun _ _ => ensures_reportIn _)
          Spec.finds_fallback_nil))
  have steady : ∀ state stream arbiter,
      closureDue { state with stream, arbiter } = closureDue state :=
    fun _ _ _ => rfl
  refine .learn ((learns_question due).andThink steady
    (.decide (covers_sequence_nil _))) steady
    (.decide (.last (covers_moveReport _ _ ?_)))
  rintro before ⟨⟨_, unclosed⟩, closable⟩ opened
  refine ⟨?_, ?_, rfl⟩
  · simp_all [ReportState.closable, ReportState.allowedFrom]
  · intro accepted
    simpa [closureDue, accepted, CaseState.has] using closable

/-! ## Prioritization -/

theorem evaluatePriority_report (state : ActorState) :
    state.evaluatePriority.report = state.report :=
  congrArg (fun standing => standing.1.1) (standing_evaluatePriority state)

/-- Being at a stage, or getting there by a decision, a move and its
announcement. -/
theorem ensures_ensureReport {name other asks : String} {weight : Weight}
    {stage : ReportState} {type : MessageType} {state : ActorState}
    {post : Status → ActorState → Prop}
    (opened : state.report = stage ∨ state.report ∈ stage.allowedFrom) :
    (Spec.fallback name
      [reportIn stage,
       .sequence other
        [.decision asks weight, toReport stage, emit type]]).Ensures bound
          state post ↔
      if state.report = stage then post .success state
      else
        post (state.decide ⟨asks, weight⟩).1
          (if (state.decide ⟨asks, weight⟩).1 = .success then
            ((state.decide ⟨asks, weight⟩).2.moveReport stage).broadcast type
          else (state.decide ⟨asks, weight⟩).2) := by
  rw [Spec.ensures_fallback_cons, ensures_reportIn]
  by_cases there : state.report = stage
  · simp [there, Status.ofBool]
  rw [decide_eq_false there, if_pos (by rfl), if_neg there,
    Spec.ensures_fallback_singleton, Spec.ensures_sequence_cons,
    Spec.ensures_decision]
  have asked : Blackboard.decide (⟨asks, weight⟩ : Decision) state =
      state.decide ⟨asks, weight⟩ := rfl
  rw [asked]
  by_cases taken : (state.decide ⟨asks, weight⟩).1 = .success
  · have openedStill :
        (state.decide ⟨asks, weight⟩).2.report = stage ∨
          (state.decide ⟨asks, weight⟩).2.report ∈ stage.allowedFrom := opened
    rw [if_pos taken, if_pos taken, taken, Spec.ensures_sequence_cons,
      ensures_toReport, if_pos openedStill, if_pos rfl,
      Spec.ensures_sequence_singleton, ensures_emit]
  · rw [if_neg taken, if_neg taken]

/-- Deferring succeeds only where it leaves the report deferred. -/
theorem ensures_ensureDeferred {state : ActorState}
    (decidable : state.report ∈ [.valid, .deferred, .accepted]) :
    ensureDeferred.Ensures bound state fun status after =>
      after = state.putOff ∧
        (status = .success → after.report = .deferred) := by
  have opened : state.report = .deferred ∨
      state.report ∈ ReportState.deferred.allowedFrom := by
    revert decidable
    cases state.report <;> decide
  rw [ensureDeferred, ensures_ensureReport opened, putOff]
  by_cases already : state.report = .deferred
  · simp [already]
  rw [if_neg already, if_neg already]
  refine ⟨rfl, fun taken => ?_⟩
  rw [if_pos taken]
  exact moveReport_report .deferred _

/-- A report whose priority calls for work is accepted, if anything; any other is
left to be put off. -/
theorem ensures_acceptIfUrgent {state : ActorState}
    (decidable : state.report ∈ [.valid, .deferred, .accepted]) :
    acceptIfUrgent.Ensures bound state fun status after =>
      if status = .failure then
        after.report ∈ [.valid, .deferred, .accepted] ∧
          state.prioritize = after.putOff
      else
        after = state.prioritize ∧
          (status = .success → after.report = .accepted) := by
  have decidableStill :
      state.evaluatePriority.report ∈ [.valid, .deferred, .accepted] :=
    evaluatePriority_report state ▸ decidable
  have opened : state.evaluatePriority.report = .accepted ∨
      state.evaluatePriority.report ∈ ReportState.accepted.allowedFrom := by
    revert decidableStill
    cases state.evaluatePriority.report <;> decide
  rw [acceptIfUrgent, Spec.ensures_sequence_cons, ensures_inAny,
    if_pos (by simpa [reportAxis] using decidable),
    Spec.ensures_sequence_cons, Spec.ensures_effect, if_pos rfl,
    Spec.ensures_sequence_cons, Spec.ensures_condition]
  by_cases low : state.evaluatePriority.priority = .defer
  · have declined : state.prioritize = state.evaluatePriority.putOff := by
      rw [prioritize, if_pos low]
    simp only [low, ne_eq, not_true, decide_false, Status.ofBool, reduceCtorEq,
      if_false, if_true]
    exact ⟨decidableStill, declined⟩
  rw [decide_eq_true low, if_pos (by rfl), Spec.ensures_sequence_singleton,
    ensures_ensureReport opened]
  by_cases already : state.evaluatePriority.report = .accepted
  · have stays : state.prioritize = state.evaluatePriority := by
      rw [prioritize, if_neg low, if_pos already]
    rw [if_pos already, if_neg (by decide)]
    exact ⟨stays.symm, fun _ => already⟩
  rw [if_neg already, prioritize, if_neg low, if_neg already, acceptDecision]
  have keeps : (state.evaluatePriority.decide
      ⟨"OnAccept", .alwaysSucceed⟩).2.report ∈
        [.valid, .deferred, .accepted] := decidableStill
  generalize state.evaluatePriority.decide _ = answered at keeps ⊢
  rcases answered with ⟨_ | _ | _, asked⟩
  case success => exact ⟨rfl, fun _ => moveReport_report .accepted _⟩
  case failure => exact ⟨keeps, rfl⟩
  case running => exact ⟨rfl, by simp⟩

/-- What is prioritized successfully is worked on or put off. -/
theorem ensures_prioritize {name : String} {state : ActorState}
    (decidable : state.report ∈ [.valid, .deferred, .accepted]) :
    (Spec.fallback name [acceptIfUrgent, ensureDeferred]).Ensures bound state
      fun status after => after = state.prioritize ∧
        (status = .success → after.report ∈ [.accepted, .deferred]) := by
  rw [Spec.ensures_fallback_cons]
  apply (ensures_acceptIfUrgent decidable).mono
  intro status middle urgent
  by_cases failed : status = .failure
  · rw [if_pos failed] at urgent
    rcases urgent with ⟨decidableStill, declined⟩
    rw [if_pos failed, Spec.ensures_fallback_singleton, declined]
    apply (ensures_ensureDeferred decidableStill).mono
    rintro answer after ⟨puts, deferred⟩
    exact ⟨puts, fun succeeded => by simp [deferred succeeded]⟩
  · rw [if_neg failed] at urgent
    rcases urgent with ⟨settled, accepted⟩
    rw [if_neg failed]
    exact ⟨settled, fun succeeded => by simp [accepted succeeded]⟩

/-- It was decided before whether to work on the report. -/
def prioritized (state : ActorState) : Bool :=
  state.report ∈ [.deferred, .accepted]

/-- To stay where one is for want of new information takes some thinking. -/
theorem learns_considerMoreInfo :
    doing.Learns bound considerMoreInfo prioritized := by
  refine (learns_question fun _ _ => ensures_inAny reportAxis _ _).andThink
    (fun _ _ _ => rfl) (.last (.orElse (covers_decision _ _) (.orElse ?_
      (covers_fallback_nil _))))
  exact .decide (.decide (covers_sequence_nil _))

/-- Prioritizing is one deed, after thinking perhaps. -/
theorem ensures_prioritizeReport {state : ActorState}
    (decidable : state.report ∈ [.valid, .deferred, .accepted]) :
    prioritizeReport.Ensures bound state fun status after =>
      Deeds state after ∧
        (status = .success → after.report ∈ [.accepted, .deferred]) := by
  rw [prioritizeReport, Spec.ensures_fallback_cons]
  apply (learns_considerMoreInfo state (Policy.settles_anyhow _)).mono
  rintro status after ⟨ends, found⟩
  have ponders : Ponders state after := ends.ponders
  by_cases failed : status = .failure
  · rw [if_pos failed]
    have decidableStill : after.report ∈ [.valid, .deferred, .accepted] := by
      rcases ponders.exists_eq with ⟨stream, arbiter, _, rfl⟩
      exact decidable
    apply (ensures_prioritize decidableStill).mono
    rintro answer last ⟨rfl, worked⟩
    exact ⟨(Deeds.of_ponders ponders).tail (.prioritize decidableStill),
      worked⟩
  · rw [if_neg failed]
    refine ⟨.of_ponders ponders, fun succeeded => ?_⟩
    have held := of_decide_eq_true (found succeeded)
    rcases List.mem_pair.mp held with deferred | accepted
    · simp [deferred]
    · simp [accepted]

end Disclosure.Behavior
