import Disclosure.Proofs.Tree.Ensures
import Disclosure.Protocol.Mail

/-!
# What conditions and moves ensure

One rule for each of the small trees that the protocol is made of.  A question
leaves the actor as it is.  A guarded move has two outcomes only: it succeeds and
the actor is where it shall be, or it fails and the actor is as it was.
-/

namespace Disclosure

namespace Status

@[simp]
theorem ofBool_eq_success (holds : Bool) :
    ofBool holds = .success ↔ holds = true := by
  cases holds <;> simp [ofBool]

@[simp]
theorem ofBool_eq_failure (holds : Bool) :
    ofBool holds = .failure ↔ holds = false := by
  cases holds <;> simp [ofBool]

@[simp]
theorem ofBool_ne_running (holds : Bool) : ofBool holds ≠ .running := by
  cases holds <;> simp [ofBool]

end Status

namespace CaseState

theorem insert_of_has {state : CaseState} {flag : CaseFlag}
    (has : state.has flag = true) :
    state.insert flag = state := by
  cases flag <;> cases state <;> simp_all [CaseState.has, CaseState.insert]

end CaseState

namespace ActorState

/-! ## Moves as updates of a state -/

theorem moveReport_eq (target : ReportState) (state : ActorState) :
    state.moveReport target =
      { state with
        report := target
        reportHistory :=
          if state.report = target then state.reportHistory
          else state.reportHistory ++ [target] } := by
  by_cases stays : state.report = target
  · simp only [moveReport, stays, if_true]
    rw [← stays]
  · simp only [moveReport, stays, if_false]

theorem moveEmbargo_eq (target : EmbargoState) (state : ActorState) :
    state.moveEmbargo target =
      { state with
        embargo := target
        embargoHistory :=
          if state.embargo = target then state.embargoHistory
          else state.embargoHistory ++ [target] } := by
  by_cases stays : state.embargo = target
  · simp only [moveEmbargo, stays, if_true]
    rw [← stays]
  · simp only [moveEmbargo, stays, if_false]

theorem moveCase_eq (target : CaseState) (state : ActorState) :
    state.moveCase target =
      { state with
        caseState := target
        caseHistory :=
          if state.caseState = target then state.caseHistory
          else state.caseHistory ++ [target] } := by
  by_cases stays : state.caseState = target
  · simp only [moveCase, stays, if_true]
    rw [← stays]
  · simp only [moveCase, stays, if_false]

@[simp]
theorem moveReport_report (target : ReportState) (state : ActorState) :
    (state.moveReport target).report = target := by
  rw [moveReport_eq]

@[simp]
theorem moveEmbargo_embargo (target : EmbargoState) (state : ActorState) :
    (state.moveEmbargo target).embargo = target := by
  rw [moveEmbargo_eq]

@[simp]
theorem setFlag_caseState (flag : CaseFlag) (state : ActorState) :
    (state.setFlag flag).caseState = state.caseState.insert flag := by
  rw [setFlag, moveCase_eq]

@[simp]
theorem moveReport_self (state : ActorState) :
    state.moveReport state.report = state := by
  simp [moveReport]

@[simp]
theorem moveEmbargo_self (state : ActorState) :
    state.moveEmbargo state.embargo = state := by
  simp [moveEmbargo]

theorem setFlag_of_has {state : ActorState} {flag : CaseFlag}
    (has : state.caseState.has flag = true) :
    state.setFlag flag = state := by
  simp [setFlag, moveCase, CaseState.insert_of_has has]

end ActorState

namespace Behavior

variable {bound : Nat} {state : ActorState}
  {post : Status → ActorState → Prop}

/-! ## The axes -/

section Axis

variable {σ : Type} [DecidableEq σ] (axis : Axis σ)

@[simp]
theorem ensures_isIn (target : σ) :
    (axis.isIn target).Ensures bound state post ↔
      post (.ofBool (axis.current state = target)) state := by
  rw [Axis.isIn, Spec.ensures_condition]

@[simp]
theorem ensures_notIn (target : σ) :
    (axis.notIn target).Ensures bound state post ↔
      post (.ofBool (axis.current state ≠ target)) state := by
  rw [Axis.notIn, Spec.ensures_condition]

@[simp]
theorem ensures_inAny (name : String) (states : List σ) :
    (axis.inAny name states).Ensures bound state post ↔
      post (.ofBool (axis.current state ∈ states)) state := by
  rw [Axis.inAny, Spec.ensures_condition]

/-- A guarded move, along an axis where staying leaves no trace. -/
theorem ensures_moveTo
    {name : String} {starts : List σ} {target : σ}
    (stays : axis.current state = target → axis.move target state = state) :
    (axis.moveTo name starts target).Ensures bound state post ↔
      if axis.current state = target ∨ axis.current state ∈ starts then
        post .success (axis.move target state)
      else post .failure state := by
  by_cases already : axis.current state = target
  · simp [Axis.moveTo, Axis.set, already, stays already, Status.ofBool]
  · by_cases open' : axis.current state ∈ starts
    · simp [Axis.moveTo, Axis.set, already, open']
    · simp [Axis.moveTo, Axis.set, already, open', Status.ofBool]

end Axis

@[simp]
theorem ensures_reportIn (target : ReportState) :
    (reportIn target).Ensures bound state post ↔
      post (.ofBool (state.report = target)) state :=
  ensures_isIn reportAxis target

@[simp]
theorem ensures_reportNotIn (target : ReportState) :
    (reportNotIn target).Ensures bound state post ↔
      post (.ofBool (state.report ≠ target)) state :=
  ensures_notIn reportAxis target

@[simp]
theorem ensures_reportStartOrClosed :
    reportStartOrClosed.Ensures bound state post ↔
      post (.ofBool (state.report ∈ [.start, .closed])) state :=
  ensures_inAny reportAxis _ _

@[simp]
theorem ensures_toReport (target : ReportState) :
    (toReport target).Ensures bound state post ↔
      if state.report = target ∨ state.report ∈ target.allowedFrom then
        post .success (state.moveReport target)
      else post .failure state := by
  apply ensures_moveTo reportAxis
  intro already
  exact already ▸ ActorState.moveReport_self state

@[simp]
theorem ensures_embargoIn (target : EmbargoState) :
    (embargoIn target).Ensures bound state post ↔
      post (.ofBool (state.embargo = target)) state :=
  ensures_isIn embargoAxis target

@[simp]
theorem ensures_embargoNotIn (target : EmbargoState) :
    (embargoNotIn target).Ensures bound state post ↔
      post (.ofBool (state.embargo ≠ target)) state :=
  ensures_notIn embargoAxis target

@[simp]
theorem ensures_embargoInForce :
    embargoInForce.Ensures bound state post ↔
      post (.ofBool (state.embargo ∈ [.active, .revise])) state :=
  ensures_inAny embargoAxis _ _

@[simp]
theorem ensures_embargoNoneOrExited :
    embargoNoneOrExited.Ensures bound state post ↔
      post (.ofBool (state.embargo ∈ [.noEmbargo, .exited])) state :=
  ensures_inAny embargoAxis _ _

@[simp]
theorem ensures_embargoOpen :
    embargoOpen.Ensures bound state post ↔
      post (.ofBool (state.embargo ∈ [.noEmbargo, .proposed, .revise]))
        state :=
  ensures_inAny embargoAxis _ _

@[simp]
theorem ensures_moveEmbargo (move : EmbargoMove) :
    (moveEmbargo move).Ensures bound state post ↔
      if state.embargo = move.target ∨ state.embargo ∈ move.starts then
        post .success (state.moveEmbargo move.target)
      else post .failure state := by
  apply ensures_moveTo embargoAxis
  intro already
  exact already ▸ ActorState.moveEmbargo_self state

/-! ## The case -/

@[simp]
theorem ensures_caseHas (flag : CaseFlag) :
    (caseHas flag).Ensures bound state post ↔
      post (.ofBool (state.caseState.has flag)) state := by
  rw [caseHas, Spec.ensures_condition]

@[simp]
theorem ensures_caseLacks (flag : CaseFlag) :
    (caseLacks flag).Ensures bound state post ↔
      post (.ofBool (!state.caseState.has flag)) state := by
  rw [caseLacks, Spec.ensures_condition]

@[simp]
theorem ensures_caseQuiet :
    caseQuiet.Ensures bound state post ↔
      post (.ofBool state.caseState.isQuiet) state := by
  rw [caseQuiet, Spec.ensures_condition]

@[simp]
theorem ensures_caseNotQuiet :
    caseNotQuiet.Ensures bound state post ↔
      post (.ofBool (!state.caseState.isQuiet)) state := by
  rw [caseNotQuiet, Spec.ensures_condition]

@[simp]
theorem ensures_vendorHasFix :
    vendorHasFix.Ensures bound state post ↔
      post (.ofBool state.caseState.vendorHasFix) state := by
  rw [vendorHasFix, Spec.ensures_condition]

@[simp]
theorem ensures_exploitKnown :
    exploitKnown.Ensures bound state post ↔
      post (.ofBool state.caseState.exploitKnown) state := by
  rw [exploitKnown, Spec.ensures_condition]

/-- A flag that is set stays set, and setting it again changes nothing. -/
theorem ensures_guardedFlag_free (flag : CaseFlag) :
    (guardedFlag flag []).Ensures bound state post ↔
      post .success (state.setFlag flag) := by
  cases has : state.caseState.has flag with
  | true => simp [guardedFlag, has, ActorState.setFlag_of_has has, Status.ofBool]
  | false => simp [guardedFlag, has]

theorem ensures_guardedFlag
    {flag : CaseFlag} {guard : Behavior} {holds : Bool}
    (guards : ∀ other : Status → ActorState → Prop,
      guard.Ensures bound state other ↔ other (.ofBool holds) state) :
    (guardedFlag flag [guard]).Ensures bound state post ↔
      if state.caseState.has flag ∨ holds then
        post .success (state.setFlag flag)
      else post .failure state := by
  cases has : state.caseState.has flag with
  | true => simp [guardedFlag, has, ActorState.setFlag_of_has has, Status.ofBool]
  | false =>
    cases holds with
    | true => simp [guardedFlag, has, guards]
    | false => simp [guardedFlag, has, guards, Status.ofBool]

@[simp]
theorem ensures_toVendorAware :
    (toCase .vendorAware).Ensures bound state post ↔
      post .success (state.setFlag .vendorAware) :=
  ensures_guardedFlag_free .vendorAware

@[simp]
theorem ensures_toPublicAware :
    (toCase .publicAware).Ensures bound state post ↔
      post .success (state.setFlag .publicAware) :=
  ensures_guardedFlag_free .publicAware

@[simp]
theorem ensures_toExploitPublic :
    (toCase .exploitPublic).Ensures bound state post ↔
      post .success (state.setFlag .exploitPublic) :=
  ensures_guardedFlag_free .exploitPublic

@[simp]
theorem ensures_toAttacksObserved :
    (toCase .attacksObserved).Ensures bound state post ↔
      post .success (state.setFlag .attacksObserved) :=
  ensures_guardedFlag_free .attacksObserved

@[simp]
theorem ensures_toFixReady :
    (toCase .fixReady).Ensures bound state post ↔
      if state.caseState.fixReady ∨ state.caseState.vendorAware then
        post .success (state.setFlag .fixReady)
      else post .failure state :=
  ensures_guardedFlag fun _ => ensures_caseHas .vendorAware

@[simp]
theorem ensures_toFixDeployed :
    (toCase .fixDeployed).Ensures bound state post ↔
      if state.caseState.fixDeployed ∨ state.caseState.vendorHasFix then
        post .success (state.setFlag .fixDeployed)
      else post .failure state :=
  ensures_guardedFlag fun _ => ensures_vendorHasFix

/-! ## Roles -/

@[simp]
theorem contains_vendor (roles : Roles) :
    roles.contains (.ofList [.vendor]) = roles.vendor := by
  have only : (Roles.ofList [.vendor]).toList = [.vendor] := by decide
  simp [Roles.contains, only, Roles.has]

@[simp]
theorem contains_deployer (roles : Roles) :
    roles.contains (.ofList [.deployer]) = roles.deployer := by
  have only : (Roles.ofList [.deployer]).toList = [.deployer] := by decide
  simp [Roles.contains, only, Roles.has]

@[simp]
theorem ensures_isVendor :
    isVendor.Ensures bound state post ↔
      post (.ofBool state.roles.vendor) state := by
  rw [isVendor, roleIs, Spec.ensures_condition, contains_vendor]

@[simp]
theorem ensures_isNoVendor :
    isNoVendor.Ensures bound state post ↔
      post (.ofBool (!state.roles.vendor)) state := by
  rw [isNoVendor, roleIsNot, Spec.ensures_condition, contains_vendor]

@[simp]
theorem ensures_isNoDeployer :
    isNoDeployer.Ensures bound state post ↔
      post (.ofBool (!state.roles.deployer)) state := by
  rw [isNoDeployer, roleIsNot, Spec.ensures_condition, contains_deployer]

/-! ## Mail -/

@[simp]
theorem ensures_inboxNotEmpty :
    inboxNotEmpty.Ensures bound state post ↔
      post (.ofBool (!state.inbox.isEmpty)) state := by
  rw [inboxNotEmpty, Spec.ensures_condition]

@[simp]
theorem ensures_emit (type : MessageType) :
    (emit type).Ensures bound state post ↔
      post .success (state.broadcast type) := by
  rw [emit, Spec.ensures_effect]

@[simp]
theorem ensures_isType (type : MessageType) :
    (isType type).Ensures bound state post ↔
      post (.ofBool (state.current.any fun message => message.type == type))
        state := by
  rw [isType, Spec.ensures_condition]

@[simp]
theorem ensures_isCategory (category : MessageCategory) :
    (isCategory category).Ensures bound state post ↔
      post
        (.ofBool (state.current.any fun message =>
          message.category == category))
        state := by
  rw [isCategory, Spec.ensures_condition]

end Behavior

end Disclosure
