import Disclosure.Proofs.Tree.Hosting
import Disclosure.Protocol.Root

/-!
# The protocol can be built

Every node of the protocol obeys its rule of arity, and no leaf has anything to
set up.  So the tree of an actor can always be built.
-/

namespace Disclosure.Behavior

/-! ## Conditions and moves -/

section Axis

variable {σ : Type} [DecidableEq σ] (axis : Axis σ)

@[simp]
theorem proper_isIn (target : σ) : (axis.isIn target).Proper := by
  simp [Axis.isIn]

@[simp]
theorem proper_notIn (target : σ) : (axis.notIn target).Proper := by
  simp [Axis.notIn]

@[simp]
theorem proper_inAny (name : String) (states : List σ) :
    (axis.inAny name states).Proper := by
  simp [Axis.inAny]

@[simp]
theorem proper_moveTo (name : String) (starts : List σ) (target : σ) :
    (axis.moveTo name starts target).Proper := by
  simp [Axis.moveTo, Axis.set]

end Axis

@[simp]
theorem proper_toReport (target : ReportState) : (toReport target).Proper :=
  proper_moveTo ..

@[simp]
theorem proper_moveEmbargo (move : EmbargoMove) : (moveEmbargo move).Proper :=
  proper_moveTo ..

@[simp]
theorem proper_toCase (flag : CaseFlag) : (toCase flag).Proper := by
  cases flag <;> simp [toCase, guardedFlag, caseHas, vendorHasFix]

@[simp]
theorem proper_emit (type : MessageType) : (emit type).Proper :=
  Spec.proper_effect ..

/-! ## Embargo talks -/

@[simp]
theorem proper_terminateEmbargo : terminateEmbargo.Proper := by
  simp [terminateEmbargo, otherReasonToExit, embargoNoneOrExited, embargoIn,
    embargoInForce, caseNotQuiet, caseHas, isNoDeployer, roleIsNot]

@[simp]
theorem proper_proposeEmbargo : proposeEmbargo.Proper := by
  simp [proposeEmbargo, embargoNotIn, embargoInForce, caseQuiet, caseLacks,
    Spec.invert]

@[simp]
theorem proper_embargoManagement : embargoManagement.Proper := by
  simp [embargoManagement, reportStartOrClosed, embargoIn, caseNotQuiet,
    withoutEmbargo, withProposal, withEmbargo, withRevision,
    evaluateAndAccept, counterProposal]

/-! ## The mail -/

@[simp]
theorem proper_ensureEmbargo (name : String) (target start : EmbargoState)
    (move : EmbargoMove) :
    (ensureEmbargo name target start move).Proper := by
  simp [ensureEmbargo, embargoIn]

@[simp]
theorem proper_handle (name : String) (type : MessageType)
    (behavior : Behavior) :
    (handle name type behavior).Proper ↔ behavior.Proper := by
  simp [handle, isType]

@[simp]
theorem proper_processCategory (category : MessageCategory)
    (name abbreviation : String) (ways : List Behavior) :
    (processCategory category name abbreviation ways).Proper ↔
      ∀ way ∈ ways, way.Proper := by
  simp [processCategory, isCategory, isType]

@[simp]
theorem proper_receiveMessages : receiveMessages.Proper := by
  simp [receiveMessages, receiveNextMessage, processNextMessage,
    Spec.untilFailure, Spec.forceFailure, reportNotIn, inboxNotEmpty,
    popMessage, noteMessage, dropMessage, pushMessage, processReportMessages,
    processEmbargoMessages, processCaseMessages, processGeneralMessages,
    handleSubmission, handleRevisionResponse, handleWhileQuiet, handleExploit,
    handlePublicNews, followUpOnError, isType, isNoVendor, roleIsNot, caseHas,
    embargoIn, embargoInForce, caseQuiet, caseNotQuiet, exploitKnown]

/-! ## Reports -/

@[simp]
theorem proper_discoverVulnerability : discoverVulnerability.Proper := by
  simp [discoverVulnerability, reportNotIn, isNoVendor, roleIsNot, caseHas]

@[simp]
theorem proper_validateReport : validateReport.Proper := by
  simp [validateReport, reportIn, ensureValidationInfo, evaluateReport]

@[simp]
theorem proper_closeReport : closeReport.Proper := by
  simp [closeReport, reportIn, caseHas]

@[simp]
theorem proper_prioritizeReport : prioritizeReport.Proper := by
  simp [prioritizeReport, considerMoreInfo, acceptIfUrgent, ensureDeferred,
    reportIn]

/-! ## Work -/

@[simp]
theorem proper_developFix : developFix.Proper := by
  simp [developFix, vendorHasFix, reportIn]

@[simp]
theorem proper_deployment : deployment.Proper := by
  simp [deployment, decideWhetherToDeploy, deploy, deployFixWhenReady, caseHas,
    reportIn, isVendor, roleIs]

@[simp]
theorem proper_monitorThreats : monitorThreats.Proper := by
  have events : monitorEvents.Proper := by
    apply Spec.proper_parallel _ (by simp) (by simp) (by simp)
    simp [caseLacks, caseHas, moveToPublic]
  simp [monitorThreats, events]

@[simp]
theorem proper_publication : publication.Proper := by
  simp [publication, prepareExploit, prepareFix, prepareReport,
    acquireExploit, vendorHasFix, embargoNoneOrExited]

@[simp]
theorem proper_reportToOthers : reportToOthers.Proper := by
  simp [reportToOthers, identifyParticipants, identify, notifyOthers,
    pruneRecipients, notifyRecipient, ensureOkToNotify, embargoOpen,
    embargoInForce, Spec.forceSuccess]

@[simp]
theorem proper_assignIdentifier : assignIdentifier.Proper := by
  simp [assignIdentifier, assignIfAuthority]

@[simp]
theorem proper_doWork : doWork.Proper := by
  apply Spec.proper_parallel _ (by simp) (by simp) (by simp)
  simp [acquireExploit]

/-! ## The whole protocol -/

@[simp]
theorem proper_reportManagement : reportManagement.Proper := by
  simp [reportManagement, reportIn, whileReport, closeOr]

theorem proper_protocolRoot : protocolRoot.Proper := by
  simp [protocolRoot, takeSnapshot, reportNotIn]

end Disclosure.Behavior
