import Disclosure.Proofs.Protocol.Deeds

/-!
# What most deeds leave alone

The embargo, the case and the records of newcomers are the backdrop of an actor,
and together with the report they are its standing.  Only a few deeds touch them;
all others, long as they may be, do not.
-/

namespace Disclosure.ActorState

/-- The embargo and the case with their histories, the records of newcomers, and
the policy that decisions follow. -/
def backdrop (state : ActorState) :
    (EmbargoState × List EmbargoState) × (CaseState × List CaseState) ×
      Array Participant × Policy :=
  ((state.embargo, state.embargoHistory), (state.caseState, state.caseHistory),
    state.introduced, state.arbiter.policy)

/-- The report with its history, before the backdrop. -/
def standing (state : ActorState) :
    (ReportState × List ReportState) ×
      (EmbargoState × List EmbargoState) × (CaseState × List CaseState) ×
      Array Participant × Policy :=
  ((state.report, state.reportHistory), state.backdrop)

/-- The parties that the actor knows and tells, and what that may cost. -/
def contacts (state : ActorState) :
    Roster × Option String × UInt32 × Array Participant :=
  (state.roster, state.notifying, state.budget, state.introduced)

theorem backdrop_of_standing {before after : ActorState}
    (same : after.standing = before.standing) :
    after.backdrop = before.backdrop :=
  congrArg Prod.snd same

theorem standing_decide (decision : Decision) (state : ActorState) :
    (state.decide decision).2.standing = state.standing :=
  rfl

theorem standing_muses {before after : ActorState}
    (muses : Muses before after) :
    after.standing = before.standing := by
  obtain ⟨stream, arbiter, samePolicy, rfl⟩ := Ponders.exists_eq (.single muses)
  rw [standing, backdrop, samePolicy]
  rfl

@[simp]
theorem backdrop_moveReport (target : ReportState) (state : ActorState) :
    (state.moveReport target).backdrop = state.backdrop := by
  rw [moveReport_eq]
  rfl

/-! ## Prioritization -/

theorem standing_evaluatePriority (state : ActorState) :
    state.evaluatePriority.standing = state.standing := by
  obtain ⟨_, _, _, arbiter, samePolicy, same⟩ := evaluatePriority_eq state
  rw [same, standing, backdrop, samePolicy]
  rfl

theorem backdrop_putOff (state : ActorState) :
    state.putOff.backdrop = state.backdrop := by
  simp only [putOff]
  split
  · rfl
  · split
    · exact backdrop_moveReport .deferred (state.decide deferDecision).2
    · rfl

theorem backdrop_prioritize (state : ActorState) :
    state.prioritize.backdrop = state.backdrop := by
  have considered := backdrop_of_standing (standing_evaluatePriority state)
  simp only [prioritize]
  split
  · rw [backdrop_putOff, considered]
  split
  · exact considered
  split
  · exact (backdrop_moveReport .accepted
      (state.evaluatePriority.decide acceptDecision).2).trans considered
  · rw [backdrop_putOff]
    exact considered
  · exact considered

/-! ## Outreach -/

theorem standing_chooseRecipient (state : ActorState) :
    state.chooseRecipient.2.standing = state.standing := by
  rw [chooseRecipient]
  split <;> rfl

theorem standing_removeRecipient (state : ActorState) :
    state.removeRecipient.standing = state.standing := by
  rw [removeRecipient]
  split <;> rfl

end Disclosure.ActorState
