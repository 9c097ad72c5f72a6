import Disclosure.Proofs.Protocol.Proper
import Disclosure.Proofs.Protocol.Root
import Disclosure.Proofs.Tree.Hosting

/-!
# Deferring a report, and the work that goes on

A step with the report that leaves it deferred tells everybody so, unless the
report was deferred before, and does nothing else; with one exception.  The step
with an accepted report looks at the priority and then goes to work.  When it
defers the report it succeeds, and so the work is taken up all the same, on a
report that is not accepted any more.
-/

namespace Disclosure

namespace ActorState

/-- The report was looked at: nothing has changed but the priority, the stream
and the record of answers. -/
def Considers (before after : ActorState) : Prop :=
  ∃ priority prioritizations stream arbiter,
    arbiter.policy = before.arbiter.policy ∧
      after = { before with priority, prioritizations, stream, arbiter }

/-- The report is put off, and everybody is told so. -/
def postponed (state : ActorState) : ActorState :=
  { state with
    report := .deferred
    reportHistory := state.reportHistory ++ [.deferred]
    emitted := state.emitted ++ [.reportDeferred]
    sent := state.sent.push (.broadcast .reportDeferred state.name) }

/-- The report was looked at, and it is put off unless it was before. -/
def Defers (before after : ActorState) : Prop :=
  if before.report = .deferred then Considers before after
  else Considers before.postponed after

/-- A step with the report that has failed has only looked at it; one that leaves
it deferred has deferred it, and has succeeded unless it was deferred before. -/
def Weighs (before : ActorState) (status : Status) (after : ActorState) :
    Prop :=
  if status = .failure then Considers before after
  else after.report = .deferred → Defers before after ∧
    (before.report ≠ .deferred → status = .success)

variable {start before after : ActorState} {status : Status}

theorem considers_self (state : ActorState) : Considers state state :=
  ⟨_, _, _, _, rfl, rfl⟩

theorem Considers.trans (first : Considers start before)
    (second : Considers before after) :
    Considers start after := by
  rcases first with ⟨_, _, _, _, samePolicy, rfl⟩
  rcases second with ⟨_, _, _, _, samePolicyThen, rfl⟩
  exact ⟨_, _, _, _, samePolicyThen.trans samePolicy, rfl⟩

theorem considers_ponders (ponders : Ponders before after) :
    Considers before after := by
  rcases ponders.exists_eq with ⟨_, _, samePolicy, rfl⟩
  exact ⟨_, _, _, _, samePolicy, rfl⟩

theorem considers_decide (decision : Decision) (state : ActorState) :
    Considers state (state.decide decision).2 :=
  considers_ponders (.single (.ask state decision))

theorem Considers.report (considers : Considers before after) :
    after.report = before.report := by
  rcases considers with ⟨_, _, _, _, _, rfl⟩
  rfl

theorem Considers.postponed (considers : Considers before after) :
    Considers before.postponed after.postponed := by
  rcases considers with ⟨_, _, _, _, samePolicy, rfl⟩
  exact ⟨_, _, _, _, samePolicy, rfl⟩

theorem Defers.of_considers (considers : Considers start before)
    (defers : Defers before after) :
    Defers start after := by
  rw [Defers, considers.report] at defers
  rw [Defers]
  by_cases already : start.report = .deferred
  · rw [if_pos already] at defers ⊢
    exact considers.trans defers
  · rw [if_neg already] at defers ⊢
    exact considers.postponed.trans defers

/-- To look at a report is to weigh it. -/
theorem Considers.weighs (considers : Considers before after) :
    Weighs before status after := by
  rw [Weighs, Defers]
  split
  · exact considers
  · intro deferred
    rw [considers.report] at deferred
    rw [if_pos deferred]
    exact ⟨considers, fun elsewhere => (elsewhere deferred).elim⟩

/-- So it is to get the report elsewhere. -/
theorem weighs_of_elsewhere (elsewhere : after.report ≠ .deferred) :
    Weighs before .success after := by
  rw [Weighs, if_neg (by decide)]
  exact fun deferred => (elsewhere deferred).elim

/-- What was weighed and is deferred was deferred, at the time or before. -/
theorem Weighs.defers (weighs : Weighs before status after)
    (deferred : after.report = .deferred) :
    Defers before after := by
  rw [Weighs] at weighs
  split at weighs
  · rw [weighs.report] at deferred
    rw [Defers, if_pos deferred]
    exact weighs
  · exact (weighs deferred).1

theorem Weighs.of_considers (considers : Considers start before)
    (weighs : Weighs before status after) :
    Weighs start status after := by
  rw [Weighs] at weighs ⊢
  by_cases failed : status = .failure
  · rw [if_pos failed] at weighs ⊢
    exact considers.trans weighs
  · rw [if_neg failed] at weighs ⊢
    intro deferred
    rcases weighs deferred with ⟨defers, succeeded⟩
    rw [considers.report] at succeeded
    exact ⟨defers.of_considers considers, succeeded⟩

end ActorState

namespace Behavior

open ActorState Deliberation

variable {bound : Nat} {state : ActorState}

/-- An alternative that has failed has only looked at the report, so the next one
finds it where it was. -/
theorem weighs_fallback {name : String} {children : List Behavior}
    (each : ∀ child ∈ children, ∀ middle, Considers state middle →
      child.Ensures bound middle (Weighs middle)) :
    (Spec.fallback name children).Ensures bound state (Weighs state) := by
  induction children generalizing state with
  | nil =>
    rw [Spec.ensures_fallback_nil]
    exact (considers_self state).weighs
  | cons child children ih =>
    rw [Spec.ensures_fallback_cons]
    apply (each child (by simp) state (considers_self state)).mono
    intro status middle weighs
    by_cases failed : status = .failure
    · rw [if_pos failed]
      rw [Weighs, if_pos failed] at weighs
      have rest : (Spec.fallback name children).Ensures bound middle
          (Weighs middle) := by
        apply ih
        intro other among later considers
        exact each other (by simp [among]) later (weighs.trans considers)
      apply rest.mono
      intro answer after further
      exact further.of_considers weighs
    · rw [if_neg failed]
      exact weighs

/-- Deliberation that never leaves the report deferred is a way to weigh it. -/
theorem weighs_of_covers {acts : ActorState → ActorState → Prop}
    {behavior : Behavior}
    (covers : (deliberating true acts).Covers bound behavior)
    (elsewhere : ∀ before after, acts before after →
      after.report ≠ .deferred)
    (state : ActorState) :
    behavior.Ensures bound state (Weighs state) := by
  apply (covers state (Policy.settles_anyhow _)).mono
  rintro status after ⟨_, ponders | ⟨rfl, middle, ponders, act⟩⟩
  · exact (considers_ponders ponders).weighs
  · exact weighs_of_elsewhere (elsewhere middle after act)

theorem weighs_validateReport (state : ActorState) :
    validateReport.Ensures bound state (Weighs state) := by
  apply weighs_of_covers covers_validateReport
  rintro before after ⟨_, rfl | rfl⟩ <;>
    simp [broadcast, send]

theorem weighs_closeReport (state : ActorState) :
    closeReport.Ensures bound state (Weighs state) := by
  apply weighs_of_covers covers_closeReport
  rintro before after ⟨_, _, rfl⟩
  simp [broadcast, send]

theorem weighs_closeOr {name : String} {behavior : Behavior}
    (weighs : ∀ middle, Considers state middle →
      behavior.Ensures bound middle (Weighs middle)) :
    (closeOr name behavior).Ensures bound state (Weighs state) := by
  apply weighs_fallback
  simp only [List.forall_mem_cons, List.not_mem_nil, false_imp_iff,
    implies_true, and_true]
  exact ⟨fun middle _ => weighs_closeReport middle, weighs⟩

/-! ## Prioritization -/

theorem weighs_considerMoreInfo (state : ActorState) :
    considerMoreInfo.Ensures bound state (Weighs state) := by
  apply (learns_considerMoreInfo state (Policy.settles_anyhow _)).mono
  rintro status after ⟨ends, _⟩
  have ponders : Ponders state after := ends.ponders
  exact (considers_ponders ponders).weighs

theorem considers_evaluatePriority (state : ActorState) :
    Considers state state.evaluatePriority :=
  evaluatePriority_eq state

theorem weighs_acceptIfUrgent
    (decidable : state.report ∈ [.valid, .deferred, .accepted]) :
    acceptIfUrgent.Ensures bound state (Weighs state) := by
  have considered := considers_evaluatePriority state
  have opened : state.evaluatePriority.report = .accepted ∨
      state.evaluatePriority.report ∈ ReportState.accepted.allowedFrom := by
    rw [considered.report]
    revert decidable
    cases state.report <;> decide
  rw [acceptIfUrgent, Spec.ensures_sequence_cons, ensures_inAny,
    if_pos (by simpa [reportAxis] using decidable),
    Spec.ensures_sequence_cons, Spec.ensures_effect, if_pos rfl,
    Spec.ensures_sequence_cons, Spec.ensures_condition]
  by_cases low : state.evaluatePriority.priority = .defer
  · rw [decide_eq_false (not_not_intro low), if_neg (by decide)]
    exact considered.weighs
  rw [decide_eq_true low, if_pos (by rfl), Spec.ensures_sequence_singleton,
    ensures_ensureReport opened]
  split
  case isTrue => exact considered.weighs
  split
  case isTrue taken =>
    rw [taken]
    exact weighs_of_elsewhere (by simp [broadcast, send])
  case isFalse =>
    exact (considered.trans (considers_decide _ _)).weighs

theorem weighs_ensureDeferred
    (decidable : state.report ∈ [.valid, .deferred, .accepted]) :
    ensureDeferred.Ensures bound state (Weighs state) := by
  have opened : state.report = .deferred ∨
      state.report ∈ ReportState.deferred.allowedFrom := by
    revert decidable
    cases state.report <;> decide
  rw [ensureDeferred, ensures_ensureReport opened]
  split
  case isTrue => exact (considers_self state).weighs
  case isFalse elsewhere =>
    split
    case isTrue taken =>
      have asked := considers_decide ⟨"OnDefer", .alwaysSucceed⟩ state
      have elsewhereStill : (state.decide
          ⟨"OnDefer", .alwaysSucceed⟩).2.report ≠ .deferred := elsewhere
      rw [taken, Weighs, Defers, if_neg (by decide), if_neg elsewhere,
        moveReport_eq, if_neg elsewhereStill]
      exact fun _ => ⟨asked.postponed, fun _ => rfl⟩
    case isFalse => exact (considers_decide _ state).weighs

theorem weighs_prioritizeReport
    (decidable : state.report ∈ [.valid, .deferred, .accepted]) :
    prioritizeReport.Ensures bound state (Weighs state) := by
  have decidableStill : ∀ middle, Considers state middle →
      middle.report ∈ [.valid, .deferred, .accepted] :=
    fun _ considers => considers.report ▸ decidable
  apply weighs_fallback
  simp only [List.forall_mem_cons, List.not_mem_nil, false_imp_iff,
    implies_true, and_true]
  refine ⟨?inform, ?accept, ?defer⟩
  case inform => exact fun middle _ => weighs_considerMoreInfo middle
  case accept =>
    exact fun middle considers =>
      weighs_acceptIfUrgent (decidableStill middle considers)
  case defer =>
    exact fun middle considers =>
      weighs_ensureDeferred (decidableStill middle considers)

/-! ## The step that a state of the report calls for -/

theorem weighs_reportIn (stage : ReportState) (state : ActorState) :
    (reportIn stage).Ensures bound state (Weighs state) := by
  rw [ensures_reportIn]
  exact (considers_self state).weighs

theorem weighs_whileReport {name : String} {stage : ReportState}
    {behavior : Behavior}
    (weighs : state.report = stage →
      behavior.Ensures bound state (Weighs state)) :
    (whileReport name stage behavior).Ensures bound state (Weighs state) := by
  rw [whileReport, Spec.ensures_sequence_cons, ensures_reportIn]
  by_cases stands : state.report = stage
  · rw [decide_eq_true stands, if_pos (by rfl),
      Spec.ensures_sequence_singleton]
    exact weighs stands
  · rw [decide_eq_false stands, if_neg (by decide)]
    exact (considers_self state).weighs

/-- A report that is not accepted is weighed, and that is all. -/
theorem weighs_reportManagement (idle : state.report ≠ .accepted) :
    reportManagement.Ensures bound state (Weighs state) := by
  have prioritizes : ∀ {stage : ReportState} {middle : ActorState},
      stage ∈ [.valid, .deferred, .accepted] → middle.report = stage →
        prioritizeReport.Ensures bound middle (Weighs middle) :=
    fun decidable stands => weighs_prioritizeReport (stands ▸ decidable)
  apply weighs_fallback
  simp only [List.forall_mem_cons, List.not_mem_nil, false_imp_iff,
    implies_true, and_true]
  refine ⟨?start, ?closed, ?received, ?invalid, ?valid, ?deferred, ?accepted⟩
  case start => exact fun middle _ => weighs_reportIn .start middle
  case closed => exact fun middle _ => weighs_reportIn .closed middle
  case received =>
    exact fun middle _ => weighs_whileReport fun _ =>
      weighs_validateReport middle
  case invalid =>
    exact fun middle _ => weighs_whileReport fun _ =>
      weighs_closeOr fun later _ => weighs_validateReport later
  case valid =>
    exact fun middle _ => weighs_whileReport (prioritizes (by decide))
  case deferred =>
    refine fun middle _ => weighs_whileReport fun stands =>
      weighs_closeOr fun later considers => ?_
    exact prioritizes (by decide) (considers.report.trans stands)
  case accepted =>
    refine fun middle considers => weighs_whileReport fun stands => ?_
    exact (idle (considers.report ▸ stands)).elim

/-- Work leaves the report where it stands. -/
theorem working_report {before after : ActorState}
    (path : working.Path before after) :
    after.report = before.report := by
  induction path with
  | refl => rfl
  | tail _ works ih => exact works.2.trans ih

/-- An accepted report that is deferred in the end was deferred before the work,
and the work was taken up all the same. -/
theorem ensures_deferThenWork {name : String}
    (accepted : state.report = .accepted) :
    (Spec.sequence name [prioritizeReport, doWork]).Ensures bound state
      fun status after => after.report = .deferred →
        ∃ middle, Defers state middle ∧
          doWork.run bound middle = .ok (status, after) := by
  have decidable : state.report ∈ [.valid, .deferred, .accepted] := by
    simp [accepted]
  have elsewhere : state.report ≠ .deferred := by simp [accepted]
  rw [Spec.ensures_sequence_cons]
  apply ((weighs_prioritizeReport decidable).and
    (ensures_prioritizeReport decidable)).mono
  rintro status middle ⟨weighs, _, settled⟩
  by_cases succeeded : status = .success
  · rw [if_pos succeeded, Spec.ensures_sequence_singleton]
    have ready : prioritized middle = true := by
      have decided := settled succeeded
      simp only [List.mem_cons, List.not_mem_nil, or_false] at decided
      simp [prioritized, decided.symm]
    rcases working_doWork middle ready with ⟨answer, after, ran, _, path⟩
    refine ⟨answer, after, ran, fun deferred => ⟨middle, ?_, ran⟩⟩
    rw [working_report path] at deferred
    exact weighs.defers deferred
  · rw [if_neg succeeded]
    intro deferred
    exfalso
    rw [Weighs] at weighs
    split at weighs
    · rw [weighs.report] at deferred
      exact elsewhere deferred
    · exact succeeded ((weighs deferred).2 elsewhere)

/-- A step that is meant for another state of the report is passed over. -/
theorem ensures_passStage {name other : String} {stage : ReportState}
    {behavior : Behavior} {rest : List Behavior}
    {post : Status → ActorState → Prop}
    (elsewhere : state.report ≠ stage) :
    (Spec.fallback name (whileReport other stage behavior :: rest)).Ensures
        bound state post ↔
      (Spec.fallback name rest).Ensures bound state post := by
  rw [Spec.ensures_fallback_cons, whileReport, Spec.ensures_sequence_cons,
    ensures_reportIn, decide_eq_false elsewhere, if_neg (by decide),
    if_pos (by rfl)]

/-- Only the last step is for an accepted report. -/
theorem ensures_whenAccepted {post : Status → ActorState → Prop}
    (accepted : state.report = .accepted) :
    reportManagement.Ensures bound state post ↔
      (closeOr "CloseOrWork"
        (.sequence "PrioritizeAndWork" [prioritizeReport, doWork])).Ensures
          bound state post := by
  have elsewhere : ∀ stage ≠ ReportState.accepted, state.report ≠ stage :=
    fun stage other stands => other (stands ▸ accepted)
  rw [reportManagement, Spec.ensures_fallback_cons, ensures_reportIn,
    decide_eq_false (elsewhere _ (by decide)), if_pos (by rfl),
    Spec.ensures_fallback_cons, ensures_reportIn,
    decide_eq_false (elsewhere _ (by decide)), if_pos (by rfl),
    ensures_passStage (elsewhere _ (by decide)),
    ensures_passStage (elsewhere _ (by decide)),
    ensures_passStage (elsewhere _ (by decide)),
    ensures_passStage (elsewhere _ (by decide)),
    Spec.ensures_fallback_singleton, whileReport, Spec.ensures_sequence_cons,
    ensures_reportIn, decide_eq_true accepted, if_pos (by rfl),
    Spec.ensures_sequence_singleton]

/-- A step that leaves the report deferred has deferred it, and has gone to work
afterwards if and only if the report was accepted. -/
theorem ensures_deferring (bound : Nat) (state : ActorState) :
    reportManagement.Ensures bound state fun status after =>
      after.report = .deferred → ∃ middle, Defers state middle ∧
        if state.report = .accepted then
          doWork.run bound middle = .ok (status, after)
        else after = middle := by
  by_cases accepted : state.report = .accepted
  case neg =>
    simp only [if_neg accepted]
    apply (weighs_reportManagement accepted).mono
    intro status after weighs deferred
    exact ⟨after, weighs.defers deferred, rfl⟩
  simp only [if_pos accepted]
  rw [ensures_whenAccepted accepted, closeOr, Spec.ensures_fallback_cons]
  apply (covers_closeReport state (Policy.settles_anyhow _)).mono
  rintro status considered ⟨_, ponders | ⟨rfl, middle, _, _, _, rfl⟩⟩
  case inr =>
    rw [if_neg (by decide)]
    intro deferred
    simp [broadcast, send] at deferred
  have considers := considers_ponders ponders
  have acceptedStill := considers.report.trans accepted
  by_cases failed : status = .failure
  · rw [if_pos failed, Spec.ensures_fallback_singleton]
    apply (ensures_deferThenWork acceptedStill).mono
    intro answer after works deferred
    rcases works deferred with ⟨middle, defers, ran⟩
    exact ⟨middle, defers.of_considers considers, ran⟩
  · rw [if_neg failed]
    intro deferred
    rw [acceptedStill] at deferred
    cases deferred

end Behavior

open ActorState Behavior

/--
A tick of the step with the report that leaves it deferred has looked at it and
deferred it, unless it was deferred before.  If the report was not accepted, then
that is all; if it was, then the tick has gone to work on the deferred report.
-/
theorem deferral_is_all_unless_accepted
    {tree : BehaviorTree Unit ActorState} {bound : Nat}
    (hosts : tree.root.Hosts reportManagement) :
    ∃ status last, tree.tick bound = .ok (status, last) ∧
      (last.board.report = .deferred →
        ∃ middle, Defers tree.board middle ∧
          if tree.board.report = .accepted then
            doWork.run bound middle = .ok (status, last.board)
          else last.board = middle) := by
  rcases ensures_deferring bound tree.board with ⟨status, after, ran, ends⟩
  obtain ⟨last, ticked, _, rfl⟩ :=
    BehaviorTree.tick_of_hosts hosts proper_reportManagement ran
  exact ⟨status, last, ticked, ends⟩

/-- A vendor with an accepted report of no priority, who defers it without much
ado and notices attacks. -/
def watchful : ActorState :=
  { ActorState.new "vendor" (.ofList [.vendor]) (.ofSeed 0) with
    report := .accepted
    arbiter := .new (.nodding ["OnDefer", "MonitorAttacks"]) }

theorem watchful_works :
    (reportManagement.run 1 watchful).toOption.map
        (fun result => (result.2.report, result.2.emitted,
          result.2.caseState.attacksObserved)) =
      some (.deferred, [.reportDeferred, .attacksObserved], true) := by
  decide +kernel

/-- An accepted report is deferred, and then the tick goes to work on it. -/
theorem deferral_is_followed_by_work_of_watchful :
    ∃ tree : BehaviorTree Unit ActorState,
      tree.root.Hosts reportManagement ∧ tree.board = watchful ∧
      ∃ status last, tree.tick 1 = .ok (status, last) ∧
        last.board.report = .deferred ∧
        ∃ middle, Defers watchful middle ∧
          doWork.run 1 middle = .ok (status, last.board) := by
  obtain ⟨tree, hosts, board⟩ :=
    BehaviorTree.exists_hosting proper_reportManagement watchful
  obtain ⟨status, last, ticked, works⟩ :=
    @deferral_is_all_unless_accepted tree 1 hosts
  obtain ⟨_, _, _, tickedToo, reads⟩ :=
    BehaviorTree.exists_tick_of_run hosts proper_reportManagement
      (board ▸ watchful_works)
  cases ticked.symm.trans tickedToo
  have deferred : last.board.report = .deferred := congrArg Prod.fst reads
  obtain ⟨middle, defers, worked⟩ := works deferred
  rw [board] at defers worked
  exact ⟨tree, hosts, board, status, last, ticked, deferred, middle, defers,
    worked⟩

/-- A report is deferred and worked on in the same tick: attacks are noticed and
announced after everybody was told that the report is deferred. -/
theorem deferred_report_is_worked :
    ∃ tree : BehaviorTree Unit ActorState,
      tree.root.Hosts reportManagement ∧ tree.board.emitted = [] ∧
      ∃ status last, tree.tick 1 = .ok (status, last) ∧
        last.board.report = .deferred ∧
        last.board.emitted = [.reportDeferred, .attacksObserved] ∧
        last.board.caseState ≠ tree.board.caseState := by
  obtain ⟨tree, hosts, board⟩ :=
    BehaviorTree.exists_hosting proper_reportManagement watchful
  obtain ⟨status, last, _, ticked, reads⟩ :=
    BehaviorTree.exists_tick_of_run hosts proper_reportManagement
      (board ▸ watchful_works)
  simp only [Prod.mk.injEq] at reads
  obtain ⟨deferred, emitted, attacked⟩ := reads
  refine ⟨tree, hosts, by rw [board]; rfl, status, last, ticked, deferred,
    emitted, ?_⟩
  intro same
  rw [same, board] at attacked
  cases attacked

end Disclosure
