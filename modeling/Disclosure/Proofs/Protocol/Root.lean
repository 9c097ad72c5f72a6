import Disclosure.Proofs.Protocol.Outreach
import Disclosure.Proofs.Protocol.Receiving

/-!
# A tick of the protocol is a matter of deeds

The whole protocol comes to an answer, provided that its loop over the inbox has
a bound larger than the inbox, and all that it does on the way are deeds.
-/

namespace Disclosure.Behavior

open ActorState Course Deliberation

variable {bound : Nat}

/-- Any deeds, and any answer. -/
def acting : Course ActorState where
  ready _ := True
  move := Deed
  answers _ := True
  stable ready _ := ready
  success := trivial
  failure := trivial

theorem Doing.acting {acts : ActorState → ActorState → Prop}
    {behavior : Behavior}
    (covers : (deliberating true acts).Covers bound behavior)
    (deed : ∀ before after, acts before after → Deed before after) :
    acting.Covers bound behavior :=
  covers.onCourse (fun _ _ => Policy.settles_anyhow _)
    (fun _ _ muses => .muse muses) (fun _ _ _ act => deed _ _ act)
    (fun _ _ => trivial)

/-! ## Work -/

theorem working_doWork : working.Covers bound doWork := by
  refine .parallel_one (by simp) ?_ trivial ?_
  · intro stream state _
    exact works_muses (.draw state stream)
  simp only [List.forall_mem_cons, List.not_mem_nil, false_imp_iff,
    implies_true, and_true]
  exact ⟨Labor.working covers_developFix, Labor.working covers_deployment,
    working_monitorThreats, working_publication, working_reportToOthers,
    Labor.working covers_assignIdentifier, Labor.working (covers_decision _ _),
    Labor.working (covers_decision _ _)⟩

/-! ## Report management -/

/-- A behavior for one state of the report needs to act in that state only. -/
theorem acting_whileReport {name : String} {stage : ReportState}
    {behavior : Behavior}
    (acts : ∀ state, state.report = stage →
      behavior.Ensures bound state fun _ after => Deeds state after) :
    acting.Covers bound (whileReport name stage behavior) := by
  refine .guarded (fun _ _ => ensures_reportIn _) ?_
  intro state _ stands
  rw [Spec.ensures_sequence_singleton]
  apply (acts state (of_decide_eq_true stands)).mono
  intro status after deeds
  exact ⟨trivial, deeds⟩

theorem ensures_validate (state : ActorState) :
    validateReport.Ensures bound state fun _ after => Deeds state after := by
  apply (covers_validateReport state (Policy.settles_anyhow _)).mono
  intro status after ends
  exact deeds_of_ends (fun _ => Validates.deed) ends

/-- A report that was not closed is where it was before. -/
theorem ensures_closeOr {name : String} {stage : ReportState}
    {behavior : Behavior} {state : ActorState}
    (acts : ∀ state, state.report = stage →
      behavior.Ensures bound state fun _ after => Deeds state after)
    (stands : state.report = stage) :
    (closeOr name behavior).Ensures bound state fun _ after =>
      Deeds state after := by
  rw [closeOr, Spec.ensures_fallback_cons]
  apply (covers_closeReport state (Policy.settles_anyhow _)).mono
  intro status after ends
  by_cases failed : status = .failure
  · rw [if_pos failed, Spec.ensures_fallback_singleton]
    rcases ends with ⟨_, ponders | ⟨succeeded, _⟩⟩
    · have standsStill : after.report = stage := by
        rcases Ponders.exists_eq ponders with ⟨stream, arbiter, _, rfl⟩
        exact stands
      apply (acts after standsStill).mono
      intro answer last deeds
      exact (Deeds.of_ponders ponders).trans deeds
    · rw [failed] at succeeded
      cases succeeded
  · rw [if_neg failed]
    exact deeds_of_ends (fun _ => Closes.deed) ends

theorem ensures_prioritizeDeeds {stage : ReportState}
    (decidable : stage ∈ [.valid, .deferred, .accepted])
    (state : ActorState)
    (stands : state.report = stage) :
    prioritizeReport.Ensures bound state fun _ after => Deeds state after := by
  apply (ensures_prioritizeReport (stands ▸ decidable)).mono
  intro status after ends
  exact ends.1

/-- The work begins when it is decided whether to work on the report. -/
theorem ensures_prioritizeAndWork (state : ActorState)
    (stands : state.report = .accepted) :
    (Spec.sequence "PrioritizeAndWork" [prioritizeReport, doWork]).Ensures
      bound state fun _ after => Deeds state after := by
  rw [Spec.ensures_sequence_cons]
  apply (ensures_prioritizeReport (by simp [stands])).mono
  rintro status middle ⟨deeds, worked⟩
  by_cases succeeded : status = .success
  · rw [if_pos succeeded, Spec.ensures_sequence_singleton]
    have ready : prioritized middle = true := by
      rcases List.mem_pair.mp (worked succeeded) with accepted | deferred
      · simp [prioritized, accepted]
      · simp [prioritized, deferred]
    apply (working_doWork middle ready).mono
    rintro answer after ⟨_, path⟩
    exact deeds.trans
      (Relation.ReflTransGen.mono (fun _ _ works => works.1) _ _ path)
  · rw [if_neg succeeded]
    exact deeds

theorem acting_reportManagement : acting.Covers bound reportManagement := by
  refine .fallback ?_
  simp only [List.forall_mem_cons, List.not_mem_nil, false_imp_iff,
    implies_true, and_true]
  refine ⟨covers_condition _ _, covers_condition _ _, acting_whileReport ?_,
    acting_whileReport ?_, acting_whileReport ?_, acting_whileReport ?_,
    acting_whileReport ?_⟩
  · exact fun state _ => ensures_validate state
  · exact fun state => ensures_closeOr fun state _ => ensures_validate state
  · exact ensures_prioritizeDeeds (by decide)
  · exact fun state => ensures_closeOr (ensures_prioritizeDeeds (by decide))
  · exact fun state => ensures_closeOr ensures_prioritizeAndWork

/-! ## The whole protocol -/

/-- Looking for a vulnerability leaves the inbox alone. -/
theorem ensures_discover (state : ActorState) :
    discoverVulnerability.Ensures bound state fun _ after =>
      Deeds state after ∧ after.inbox = state.inbox := by
  apply (covers_discoverVulnerability state (Policy.settles_anyhow _)).mono
  rintro status after ⟨_, ponders | ⟨_, middle, ponders, able, stands, rfl⟩⟩
  · rcases Ponders.exists_eq ponders with ⟨stream, arbiter, _, rfl⟩
    exact ⟨.of_ponders ponders, rfl⟩
  · have deed : Deed middle middle.discover := .discover able stands
    refine ⟨(Deeds.of_ponders ponders).tail deed, ?_⟩
    rw [(aside_discover middle).inbox]
    rcases Ponders.exists_eq ponders with ⟨stream, arbiter, _, rfl⟩
    rfl

/-- The steps after the mail. -/
theorem acting_afterMail {name : String} :
    acting.Covers bound
      (Spec.sequence name [reportManagement, embargoManagement]) := by
  refine .andThen acting_reportManagement (.andThen ?_ .done)
  exact Doing.acting covers_embargoManagement fun _ _ => Announces.deed

/-- Every tick of the protocol comes to an end, by deeds only. -/
theorem ensures_protocolRoot {state : ActorState}
    (small : state.inbox.length < bound) :
    protocolRoot.Ensures bound state fun _ after => Deeds state after := by
  have logged : Deeds state state.takeSnapshot := .single (.snapshot state)
  rw [protocolRoot, Spec.ensures_sequence_cons, takeSnapshot,
    Spec.ensures_effect, if_pos rfl, Spec.ensures_sequence_cons,
    ensures_reportNotIn]
  split
  case isFalse => exact logged
  rw [Spec.ensures_sequence_cons]
  apply (ensures_discover state.takeSnapshot).mono
  rintro status found ⟨finds, sameInbox⟩
  split
  case isFalse => exact logged.trans finds
  rw [Spec.ensures_sequence_cons]
  have fits : found.inbox.length < bound := by
    rw [sameInbox]
    exact small
  apply (ensures_receiveMessages fits).mono
  intro status read reads
  split
  case isFalse => exact (logged.trans finds).trans reads
  apply (acting_afterMail read trivial).mono
  rintro status after ⟨_, steps⟩
  exact ((logged.trans finds).trans reads).trans steps

end Disclosure.Behavior
