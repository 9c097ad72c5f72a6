import Disclosure.Proofs.Protocol.Reporting

/-!
# Work on a report

Everything that is done for an accepted or deferred report is a matter of deeds
that leave the report where it stands: fixes, threats, publication and the
assignment of an identifier.
-/

namespace Disclosure

namespace ActorState

@[simp]
theorem setFlag_report (flag : CaseFlag) (state : ActorState) :
    (state.setFlag flag).report = state.report := by
  rw [setFlag, moveCase_eq]

@[simp]
theorem moveEmbargo_report (target : EmbargoState) (state : ActorState) :
    (state.moveEmbargo target).report = state.report := by
  rw [moveEmbargo_eq]

/-- A deed that leaves the report where it stands. -/
def Works (before after : ActorState) : Prop :=
  Deed before after ∧ after.report = before.report

theorem works_muses {before after : ActorState}
    (muses : Muses before after) :
    Works before after := by
  rcases muses.exists_eq with ⟨stream, arbiter, rfl⟩
  exact ⟨.muse muses, rfl⟩

theorem EndsEmbargo.report {before after : ActorState}
    (ends : EndsEmbargo before after) :
    after.report = before.report := by
  cases ends with
  | nothing => rfl
  | withdraw => exact moveEmbargo_report _ before
  | terminate => exact moveEmbargo_report _ _
  | refused => rfl

end ActorState

namespace Behavior

open ActorState Course Deliberation

variable {bound : Nat}

/-- Work on a report that it was decided to work on or to put off. -/
def working : Course ActorState where
  ready state := prioritized state = true
  move := Works
  answers _ := True
  stable := by
    rintro before after ready ⟨_, same⟩
    rw [prioritized, same]
    exact ready
  success := trivial
  failure := trivial

/-- Deliberation that ends in work on a report, if in anything. -/
abbrev laboring : Deliberation ActorState :=
  (deliberating true Works).given (fun _ _ _ => rfl : ∀ state stream arbiter,
    prioritized { state with stream, arbiter } = prioritized state) true

theorem Labor.working {behavior : Behavior}
    (covers : laboring.Covers bound behavior) :
    working.Covers bound behavior :=
  covers.onCourse (fun _ ready => ⟨Policy.settles_anyhow _, ready⟩)
    (fun _ _ => works_muses) (fun _ _ _ works => works) (fun _ _ => trivial)

theorem Announces.works {before after : ActorState}
    (announces : Announces before after) :
    Works before after := by
  refine ⟨announces.deed, ?_⟩
  rcases announces with ⟨move, _, _, rfl⟩
  exact moveEmbargo_report _ before

/-- The embargo talks leave the report where it stands. -/
theorem Talk.working {behavior : Behavior}
    (covers : talking.Covers bound behavior) :
    working.Covers bound behavior :=
  covers.onCourse (fun _ _ => Policy.settles_anyhow _)
    (fun _ _ => works_muses) (fun _ _ _ => Announces.works)
    (fun _ _ => trivial)

/-! ## Fixes -/

/-- A flag of the case and its announcement, at the end of a sequence. -/
theorem covers_setFlag {deliberation : Deliberation ActorState}
    {name : String} {flag : CaseFlag} {type : MessageType}
    {opened : ActorState → Prop} [DecidablePred opened]
    (moves : ∀ state (post : Status → ActorState → Prop),
      (toCase flag).Ensures bound state post ↔
        if opened state then post .success (state.setFlag flag)
        else post .failure state)
    (acts : ∀ before, deliberation.known before → opened before →
      deliberation.acts before ((before.setFlag flag).broadcast type)) :
    deliberation.Covers bound
      (Spec.sequence name [toCase flag, emit type]) := by
  intro before known
  rw [Spec.ensures_sequence_cons, moves]
  by_cases open' : opened before
  · rw [if_pos open', if_pos rfl, Spec.ensures_sequence_singleton,
      ensures_emit]
    exact ends_of_acts (acts before known open')
  · rw [if_neg open', if_neg (by decide)]
    exact ends_of_ponders deliberation.failure .refl

/-- A fix is developed by a vendor that is able to, for an accepted report. -/
theorem covers_developFix : laboring.Covers bound developFix := by
  refine .unless (fun _ _ => Spec.ensures_condition _) (fun _ _ _ => rfl)
    (.unless (fun _ _ => ensures_vendorHasFix) (fun _ _ _ => rfl)
      (.orElse ?create (covers_fallback_nil _)))
  refine .guard (fun _ _ => ensures_reportIn _) (fun _ _ _ => rfl)
    (.decide (covers_setFlag (fun _ _ => ensures_toFixReady) ?_))
  rintro before ⟨⟨⟨_, able⟩, missing⟩, accepted⟩ aware
  refine ⟨.createFix ?_ (of_decide_eq_true accepted) missing aware, ?_⟩
  · simpa using able
  · exact setFlag_report _ before

theorem covers_decideWhetherToDeploy :
    laboring.idle.Covers bound decideWhetherToDeploy := by
  refine .unless (fun _ _ => ensures_reportIn _) (fun _ _ _ => rfl)
    (.unless (fun _ _ => ensures_reportIn _) (fun _ _ _ => rfl) ?_)
  rintro board ⟨⟨⟨_, decided⟩, notDeferred⟩, notAccepted⟩
  simp_all [prioritized]

/-- Who may deploy: a vendor, and others once the case is public. -/
def mayDeploy (state : ActorState) : Bool :=
  state.roles.vendor ||
    (!state.caseState.fixDeployed && state.caseState.publicAware || false)

theorem covers_deployFixWhenReady {fact : ActorState → Bool}
    (steady : laboring.Steady fact)
    (able : ∀ state, fact state = true →
      state.roles.deployer = true ∧ state.abilities.deployFix = true) :
    (laboring.given steady true).Covers bound deployFixWhenReady := by
  have ability : (Spec.fallback "DecideAbilityToDeploy"
      [isVendor,
       .condition "CSinStateNotDeployedButPublicAware" fun actor =>
        !actor.caseState.fixDeployed && actor.caseState.publicAware]
        : Behavior).Finds bound mayDeploy :=
    Spec.finds_orElse (fun _ _ => ensures_isVendor)
      (Spec.finds_orElse (fun _ _ => Spec.ensures_condition _)
        Spec.finds_fallback_nil)
  refine .guard ability (fun _ _ _ => rfl)
    (.guard (fun _ _ => Spec.ensures_condition _) (fun _ _ _ => rfl)
      (.decide (covers_setFlag (fun _ _ => ensures_toFixDeployed) ?_)))
  rintro before ⟨⟨⟨_, held⟩, available⟩, due⟩ _
  have both : before.caseState.vendorHasFix = true ∧
      before.caseState.fixDeployed = false := by simpa using due
  refine ⟨.deployFix (able before held) ?_ both.1 both.2, ?_⟩
  · simpa [mayDeploy, both.2] using available
  · exact setFlag_report _ before

/-- A fix is deployed by a deployer that is able to. -/
theorem covers_deployment : laboring.Covers bound deployment := by
  refine .orElse ?deployed (.orElse ?stay (.orElse ?deploy (.orElse ?monitor
    (covers_fallback_nil _))))
  case deployed => exact covers_question fun _ _ => ensures_caseHas _
  case stay =>
    exact .think (covers_question fun _ _ => ensures_reportIn _)
      (.decide (covers_sequence_nil _))
  case monitor => exact .decide (.decide (covers_sequence_nil _))
  case deploy =>
    refine .guard (fun _ _ => Spec.ensures_condition _) (fun _ _ _ => rfl)
      (.think (covers_decideWhetherToDeploy.given (fun _ _ _ => rfl) true)
        (.last ?_))
    refine .orElse ?deferred (.orElse ?deployed (.orElse ?fix (.orElse ?done
      (.orElse ?mitigate (covers_fallback_nil _)))))
    case deferred => exact covers_question fun _ _ => ensures_reportIn _
    case deployed => exact covers_question fun _ _ => ensures_caseHas _
    case fix =>
      apply covers_deployFixWhenReady _
      intro state able
      simpa using able
    case done => exact covers_decision _ _
    case mitigate => exact .decide (.decide (covers_sequence_nil _))

/-! ## Threats -/

/-- An event of some kind is noticed for the first time. -/
def Notices (before after : ActorState) : Prop :=
  ∃ threat : Threat, before.caseState.has threat.flag = false ∧
    after = before.witness threat

/-- Deliberation that ends in noticing an event, if in anything. -/
abbrev watching : Deliberation ActorState := deliberating true Notices

theorem covers_monitorEvents : watching.Covers bound monitorEvents := by
  refine .parallel_one (by simp) (fun stream state => .draw state stream)
    (fun _ => rfl) ?_
  simp only [List.forall_mem_cons, List.not_mem_nil, false_imp_iff,
    implies_true, and_true]
  refine ⟨.decide (.guard (fun _ _ => ensures_caseLacks _)
      (fun _ _ _ => rfl) ?attack),
    .decide (.guard (fun _ _ => ensures_caseLacks _)
      (fun _ _ _ => rfl) ?exploit),
    .decide (.guard (fun _ _ => ensures_caseLacks _)
      (fun _ _ _ => rfl) (.last ?publicReport))⟩
  case attack =>
    rintro before ⟨_, lacks⟩
    rw [Spec.ensures_sequence_cons, ensures_toAttacksObserved, if_pos rfl,
      Spec.ensures_sequence_singleton, ensures_emit]
    exact ends_of_acts ⟨.attack, by simpa [Threat.flag] using lacks, rfl⟩
  case exploit =>
    rintro before ⟨_, lacks⟩
    rw [Spec.ensures_sequence_cons, moveToPublic, ensures_goPublic, if_pos rfl,
      Spec.ensures_sequence_cons, ensures_toExploitPublic, if_pos rfl,
      Spec.ensures_sequence_singleton, ensures_emit]
    exact ends_of_acts ⟨.exploit, by simpa [Threat.flag] using lacks, rfl⟩
  case publicReport =>
    rintro before ⟨_, lacks⟩
    rw [moveToPublic, Spec.ensures_sequence_cons, ensures_toPublicAware,
      if_pos rfl, Spec.ensures_sequence_singleton, ensures_emit]
    exact ends_of_acts ⟨.publicReport, by simpa [Threat.flag] using lacks, rfl⟩

theorem goPublic_report (state : ActorState) :
    state.goPublic.report = state.report := by
  rw [goPublic]
  split
  · rfl
  · exact setFlag_report _ state

theorem witness_report (state : ActorState) (threat : Threat) :
    (state.witness threat).report = state.report := by
  cases threat with
  | attack => exact setFlag_report _ state
  | exploit => exact (setFlag_report _ _).trans (goPublic_report state)
  | publicReport => exact setFlag_report _ state

theorem witness_not_quiet (state : ActorState) (threat : Threat) :
    (state.witness threat).caseState.isQuiet = false := by
  have loud : ∀ other : ActorState,
      (other.witness threat).caseState.has threat.flag = true := by
    intro other
    cases threat with
    | attack | publicReport =>
      simp [witness, Threat.flag, broadcast, send]
    | exploit => simp [witness, Threat.flag, broadcast, send]
  have set := loud state
  cases threat <;> simp_all [Threat.flag, CaseState.has, CaseState.isQuiet]

/-- What is noticed ends the embargo within the same deed. -/
theorem working_monitorThreats : working.Covers bound monitorThreats := by
  refine .orElse ?warranted (.orElse (Labor.working (covers_decision _ _))
    .nothing)
  intro state ready
  rw [Spec.ensures_sequence_cons]
  apply (covers_monitorEvents state (Policy.settles_anyhow _)).mono
  rintro status middle
    ⟨_, ponders | ⟨rfl, start, ponders, threat, new, rfl⟩⟩
  · have path : working.Path state middle :=
      Relation.ReflTransGen.mono (fun _ _ => works_muses) _ _ ponders
    by_cases succeeded : status = .success
    · rw [if_pos succeeded, Spec.ensures_sequence_singleton]
      exact (Talk.working covers_terminateEmbargo).after ready path
    · rw [if_neg succeeded]
      exact ⟨trivial, path⟩
  · have path : working.Path state start :=
      Relation.ReflTransGen.mono (fun _ _ => works_muses) _ _ ponders
    rw [if_pos rfl, Spec.ensures_sequence_singleton]
    apply (ensures_terminateEmbargo (witness_not_quiet start threat)).mono
    rintro answer after ⟨ends, _⟩
    refine ⟨trivial, path.tail ⟨.witness threat new ends, ?_⟩⟩
    exact ends.report.trans (witness_report start threat)

/-! ## Publication -/

theorem working_prepareExploit : working.Covers bound prepareExploit := by
  refine Labor.working (.orElse (covers_decision _ _)
    (.orElse (covers_decision _ _) (.orElse ?_
      (.orElse (covers_decision _ _) (covers_fallback_nil _)))))
  exact .orElse (covers_decision _ _)
    (.orElse (covers_decision _ _) (covers_fallback_nil _))

theorem working_prepareFix : working.Covers bound prepareFix := by
  refine .fallback ?_
  simp only [List.forall_mem_cons, List.not_mem_nil, false_imp_iff,
    implies_true, and_true]
  refine ⟨Labor.working (covers_decision _ _), covers_condition _ _,
    .andThen (Labor.working covers_developFix) ?_,
    Labor.working (covers_decision _ _)⟩
  exact Labor.working (.decide (covers_sequence_nil _))

theorem working_prepareReport : working.Covers bound prepareReport :=
  Labor.working (.orElse (covers_decision _ _) (.orElse (covers_decision _ _)
    (.orElse (covers_decision _ _) (covers_fallback_nil _))))

/-- The case goes public only where no embargo stands against it. -/
theorem working_publication : working.Covers bound publication := by
  refine .orElse ?published (.orElse ?publish .nothing)
  case published =>
    refine Labor.working (.think ?_ (.decide (covers_sequence_nil _)))
    exact .orElse (covers_decision _ _)
      (.orElse (covers_decision _ _) (covers_fallback_nil _))
  case publish =>
    refine .andThen (.sequence ?_)
      (.andThen (Talk.working covers_embargoManagement) ?_)
    · simp only [List.forall_mem_cons, List.not_mem_nil, false_imp_iff,
        implies_true, and_true]
      exact ⟨working_prepareExploit, working_prepareFix,
        working_prepareReport⟩
    · refine Labor.working (.guard (fun _ _ => ensures_embargoNoneOrExited)
        (fun _ _ _ => rfl) (.decide ?_))
      rintro before ⟨_, free⟩
      rw [Spec.ensures_sequence_cons, ensures_toPublicAware, if_pos rfl,
        Spec.ensures_sequence_singleton, ensures_emit]
      refine ends_of_acts ⟨.publish (of_decide_eq_true free), ?_⟩
      exact setFlag_report _ before

/-! ## Identifiers -/

theorem covers_assignIdentifier : laboring.Covers bound assignIdentifier := by
  refine .unless (fun _ _ => Spec.ensures_condition _) (fun _ _ _ => rfl)
    (.orElse (.decide (.last (.orElse ?assign (.orElse (covers_decision _ _)
      (covers_fallback_nil _))))) (covers_fallback_nil _))
  refine .decide (.decide (.decide (.last (covers_effect ?_))))
  rintro before ⟨_, missing⟩
  exact ⟨.assign (by simpa using missing), rfl⟩

end Behavior

end Disclosure
