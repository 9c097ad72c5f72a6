import Disclosure.Proofs.Protocol.Receiving
import Disclosure.Proofs.Tree.Ignores

/-!
# Handling a message does not look at the mail

How a message is handled depends neither on the mail that waits behind it nor on
the record of what was received before it.  So both can be exchanged, before the
message is handled or afterwards.
-/

namespace Disclosure

namespace ActorState

/-- The same state with other mail waiting and another record of received mail. -/
def refile (inbox : List Message) (received : List MessageType)
    (state : ActorState) : ActorState :=
  { state with inbox, received }

variable (inbox : List Message) (received : List MessageType)
  (state : ActorState)

theorem moveReport_refile (target : ReportState) :
    (state.refile inbox received).moveReport target =
      (state.moveReport target).refile inbox received := by
  rw [moveReport_eq, moveReport_eq]
  rfl

theorem moveEmbargo_refile (target : EmbargoState) :
    (state.refile inbox received).moveEmbargo target =
      (state.moveEmbargo target).refile inbox received := by
  rw [moveEmbargo_eq, moveEmbargo_eq]
  rfl

theorem setFlag_refile (flag : CaseFlag) :
    (state.refile inbox received).setFlag flag =
      (state.setFlag flag).refile inbox received := by
  rw [setFlag, setFlag, moveCase_eq, moveCase_eq]
  rfl

end ActorState

namespace Behavior

open ActorState

variable {inbox : List Message} {received : List MessageType}

/-! ## Conditions and moves -/

section Axis

variable {σ : Type} [DecidableEq σ] {axis : Axis σ}

theorem ignores_moveTo {name : String} {starts : List σ} {target : σ}
    (same : ∀ state,
      axis.current (state.refile inbox received) = axis.current state)
    (commutes : ∀ state,
      axis.move target (state.refile inbox received) =
        (axis.move target state).refile inbox received) :
    (axis.moveTo name starts target).Ignores (refile inbox received) := by
  simp only [Axis.moveTo, Axis.isIn, Axis.set, Spec.ignores_fallback,
    Spec.ignores_sequence, List.forall_mem_cons, List.not_mem_nil,
    false_imp_iff, implies_true, and_true]
  exact ⟨Spec.ignores_condition fun state => by rw [same],
    Spec.ignores_condition fun state => by rw [same],
    Spec.ignores_effect commutes⟩

end Axis

@[simp]
theorem ignores_reportNotIn (state : ReportState) :
    (reportNotIn state).Ignores (refile inbox received) :=
  Spec.ignores_condition fun _ => rfl

@[simp]
theorem ignores_embargoIn (state : EmbargoState) :
    (embargoIn state).Ignores (refile inbox received) :=
  Spec.ignores_condition fun _ => rfl

@[simp]
theorem ignores_inAny {name : String} {states : List EmbargoState} :
    (embargoAxis.inAny name states).Ignores (refile inbox received) :=
  Spec.ignores_condition fun _ => rfl

@[simp]
theorem ignores_caseHas (flag : CaseFlag) :
    (caseHas flag).Ignores (refile inbox received) :=
  Spec.ignores_condition fun _ => rfl

@[simp]
theorem ignores_roleIsNot {name : String} {roles : Roles} :
    (roleIsNot name roles).Ignores (refile inbox received) :=
  Spec.ignores_condition fun _ => rfl

@[simp]
theorem ignores_isType (type : MessageType) :
    (isType type).Ignores (refile inbox received) :=
  Spec.ignores_condition fun _ => rfl

@[simp]
theorem ignores_isCategory (category : MessageCategory) :
    (isCategory category).Ignores (refile inbox received) :=
  Spec.ignores_condition fun _ => rfl

@[simp]
theorem ignores_caseQuiet :
    caseQuiet.Ignores (refile inbox received) :=
  Spec.ignores_condition fun _ => rfl

@[simp]
theorem ignores_caseNotQuiet :
    caseNotQuiet.Ignores (refile inbox received) :=
  Spec.ignores_condition fun _ => rfl

@[simp]
theorem ignores_exploitKnown :
    exploitKnown.Ignores (refile inbox received) :=
  Spec.ignores_condition fun _ => rfl

@[simp]
theorem ignores_toReport (target : ReportState) :
    (toReport target).Ignores (refile inbox received) :=
  ignores_moveTo (fun _ => rfl) fun state =>
    moveReport_refile inbox received state target

@[simp]
theorem ignores_moveEmbargo (move : EmbargoMove) :
    (moveEmbargo move).Ignores (refile inbox received) :=
  ignores_moveTo (fun _ => rfl) fun state =>
    moveEmbargo_refile inbox received state move.target

@[simp]
theorem ignores_setFlag {name : String} (flag : CaseFlag) :
    (Spec.effect name (ActorState.setFlag flag) : Behavior).Ignores
      (refile inbox received) :=
  Spec.ignores_effect fun state => setFlag_refile inbox received state flag

@[simp]
theorem ignores_emit (type : MessageType) :
    (emit type).Ignores (refile inbox received) :=
  Spec.ignores_effect fun _ => rfl

@[simp]
theorem ignores_decision {name : String} {weight : Weight} :
    (Spec.decision name weight : Behavior).Ignores
      (refile inbox received) :=
  Spec.ignores_decision fun _ _ => rfl

/-! ## Handlers -/

@[simp]
theorem ignores_terminateEmbargo :
    terminateEmbargo.Ignores (refile inbox received) := by
  simp [terminateEmbargo, otherReasonToExit, embargoNoneOrExited,
    embargoInForce, isNoDeployer]

@[simp]
theorem ignores_followUpOnError :
    followUpOnError.Ignores (refile inbox received) := by
  simp [followUpOnError]

@[simp]
theorem ignores_handle {name : String} {type : MessageType}
    {behavior : Behavior}
    (ignores : behavior.Ignores (refile inbox received)) :
    (handle name type behavior).Ignores (refile inbox received) := by
  simp [handle, ignores]

theorem ignores_processCategory {category : MessageCategory}
    {name abbreviation : String} {ways : List Behavior}
    (each : ∀ way ∈ ways, way.Ignores (refile inbox received)) :
    (processCategory category name abbreviation ways).Ignores
      (refile inbox received) := by
  simpa [processCategory] using each

theorem ignores_waysOf (category : MessageCategory) :
    ∀ way ∈ waysOf category,
      way.Ignores (refile inbox received) := by
  cases category <;>
    simp [waysOf, handleSubmission, isNoVendor, toCase, guardedFlag,
      ensureEmbargo, embargoInForce, handleWhileQuiet, handleRevisionResponse,
      handlePublicNews, handleExploit]

/-- Neither the mail that waits nor the record is looked at. -/
theorem ignores_handleMessage :
    handleMessage.Ignores (refile inbox received) := by
  apply Spec.ignores_fallback.mpr
  intro handler among
  rcases List.mem_map.mp among with ⟨category, _, rfl⟩
  rcases handlerOf_eq category with ⟨name, shape⟩
  rw [shape]
  exact ignores_processCategory (ignores_waysOf category)

end Behavior

end Disclosure
