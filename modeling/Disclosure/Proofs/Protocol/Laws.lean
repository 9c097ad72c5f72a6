import Disclosure.Proofs.Tree.Law
import Disclosure.Protocol.Root

/-!
# Laws of the protocol

The protocol is made of a few kinds of leaf.  A law is plain when decisions that
are never left open, moves along the axes and broadcasts obey it; it is regular
when prioritizing, identifying and drawing chance obey it as well.  What deals
with candidates and what deals with the mail comes on top.  So a law of the whole
protocol, or of a part of it, is shown by looking at these few kinds only.
-/

namespace Disclosure

/-- Sampling the weight never leaves a decision open. -/
def Weight.settles : Weight → Bool
  | running => false
  | successOrRunning => false
  | _ => true

namespace Law

variable {law : Law ActorState}

/-- Decisions, moves and broadcasts obey the law. -/
structure Plain (law : Law ActorState) : Prop where
  decide : ∀ name weight state, weight.settles = true →
    law.holds state
      (Blackboard.decide (β := ActorState) ⟨name, weight⟩ state).1
      (Blackboard.decide ⟨name, weight⟩ state).2
  moveReport : ∀ target state,
    law.holds state .success (state.moveReport target)
  moveEmbargo : ∀ target state,
    law.holds state .success (state.moveEmbargo target)
  setFlag : ∀ flag state, law.holds state .success (state.setFlag flag)
  broadcast : ∀ type state, law.holds state .success (state.broadcast type)

/-- Prioritizing, identifying and drawing chance obey the law as well, and so does
work that is left running. -/
structure Regular (law : Law ActorState) : Prop extends law.Plain where
  patient : law.Patient 1
  draw : ∀ stream state,
    law.holds state .success (Blackboard.setRandom stream state)
  evaluatePriority : ∀ state, law.holds state .success state.evaluatePriority
  assignIdentifier : ∀ state, law.holds state .success state.assignIdentifier

/-- Choosing, striking and telling candidates obey the law. -/
structure Telling (law : Law ActorState) : Prop where
  choose : ∀ state,
    law.holds state state.chooseRecipient.1 state.chooseRecipient.2
  strike : ∀ state, law.holds state .success state.removeRecipient
  report : ∀ state,
    law.holds state state.reportToRecipient.1 state.reportToRecipient.2
  brief : ∀ state, law.holds state state.briefRecipient.1 state.briefRecipient.2
  connect : ∀ state,
    law.holds state state.connectRecipient.1 state.connectRecipient.2

/-- Looking for candidates obeys the law as well. -/
structure Outgoing (law : Law ActorState) : Prop extends law.Telling where
  inject : ∀ kind roles state,
    law.holds state .success (state.injectCandidate kind roles)

/-- Taking messages up and putting them away obey the law. -/
structure Incoming (law : Law ActorState) : Prop where
  pop : ∀ state, law.holds state state.popMessage.1 state.popMessage.2
  push : ∀ state, law.holds state .success state.pushMessage
  note : ∀ state, law.holds state .success state.noteMessage
  drop : ∀ state, law.holds state .success state.dropMessage

section Weaken

variable {weaker : Law ActorState}
  (implies : ∀ before status after, law.holds before status after →
    weaker.holds before status after)

include implies

theorem Plain.weaken (plain : law.Plain) : weaker.Plain where
  decide name weight state settles :=
    implies _ _ _ (plain.decide name weight state settles)
  moveReport target state := implies _ _ _ (plain.moveReport target state)
  moveEmbargo target state := implies _ _ _ (plain.moveEmbargo target state)
  setFlag flag state := implies _ _ _ (plain.setFlag flag state)
  broadcast type state := implies _ _ _ (plain.broadcast type state)

theorem Regular.weaken (regular : law.Regular) (patient : weaker.Patient 1) :
    weaker.Regular where
  toPlain := regular.toPlain.weaken implies
  patient := patient
  draw stream state := implies _ _ _ (regular.draw stream state)
  evaluatePriority state := implies _ _ _ (regular.evaluatePriority state)
  assignIdentifier state := implies _ _ _ (regular.assignIdentifier state)

theorem Incoming.weaken (incoming : law.Incoming) : weaker.Incoming where
  pop state := implies _ _ _ (incoming.pop state)
  push state := implies _ _ _ (incoming.push state)
  note state := implies _ _ _ (incoming.note state)
  drop state := implies _ _ _ (incoming.drop state)

end Weaken

end Law

namespace Behavior

variable {law : Law ActorState}

section Axis

variable {σ : Type} [DecidableEq σ] (axis : Axis σ)

@[simp]
theorem obeys_isIn (target : σ) : (axis.isIn target).Obeys law :=
  Spec.obeys_condition

@[simp]
theorem obeys_notIn (target : σ) : (axis.notIn target).Obeys law :=
  Spec.obeys_condition

@[simp]
theorem obeys_inAny (name : String) (states : List σ) :
    (axis.inAny name states).Obeys law :=
  Spec.obeys_condition

end Axis

/-! ## Plain parts -/

section Plain

variable (plain : law.Plain)

include plain

theorem obeys_decision (name : String) {weight : Weight}
    (settles : weight.settles = true) :
    (Spec.decision name weight : Behavior).Obeys law :=
  Spec.obeys_decision.mpr fun state => plain.decide name weight state settles

theorem obeys_emit (type : MessageType) : (emit type).Obeys law :=
  Spec.obeys_effect.mpr (plain.broadcast type)

theorem obeys_toReport (target : ReportState) : (toReport target).Obeys law := by
  simp [toReport, Axis.moveTo, Axis.set, reportAxis, plain.moveReport]

theorem obeys_moveEmbargo (move : EmbargoMove) :
    (moveEmbargo move).Obeys law := by
  simp [moveEmbargo, Axis.moveTo, Axis.set, embargoAxis, plain.moveEmbargo]

theorem obeys_toCase (flag : CaseFlag) : (toCase flag).Obeys law := by
  cases flag <;>
    simp [toCase, guardedFlag, caseHas, vendorHasFix, plain.setFlag]

theorem obeys_discoverVulnerability : discoverVulnerability.Obeys law := by
  simp +decide [discoverVulnerability, reportNotIn, isNoVendor, roleIsNot,
    caseHas, obeys_decision plain, obeys_toReport plain, obeys_toCase plain,
    obeys_emit plain]

theorem obeys_validateReport : validateReport.Obeys law := by
  simp +decide [validateReport, reportIn, ensureValidationInfo, evaluateReport,
    obeys_decision plain, obeys_toReport plain, obeys_emit plain]

theorem obeys_closeReport : closeReport.Obeys law := by
  simp +decide [closeReport, reportIn, caseHas, obeys_decision plain,
    obeys_toReport plain, obeys_emit plain]

/-! ### Embargo talks -/

theorem obeys_terminateEmbargo : terminateEmbargo.Obeys law := by
  simp +decide [terminateEmbargo, otherReasonToExit, embargoNoneOrExited,
    embargoIn, embargoInForce, caseNotQuiet, caseHas, isNoDeployer, roleIsNot,
    obeys_decision plain, obeys_moveEmbargo plain, obeys_emit plain]

theorem obeys_proposeEmbargo : proposeEmbargo.Obeys law := by
  simp +decide [proposeEmbargo, embargoNotIn, embargoInForce, caseQuiet,
    caseLacks, Spec.invert, Decorator.Honors, obeys_decision plain,
    obeys_moveEmbargo plain, obeys_emit plain]

theorem obeys_embargoManagement : embargoManagement.Obeys law := by
  simp +decide [embargoManagement, reportStartOrClosed, embargoIn,
    caseNotQuiet, withoutEmbargo, withProposal, withEmbargo, withRevision,
    evaluateAndAccept, counterProposal, obeys_decision plain,
    obeys_moveEmbargo plain, obeys_emit plain, obeys_terminateEmbargo plain,
    obeys_proposeEmbargo plain]

/-! ### The mail -/

omit plain in
@[simp]
theorem obeys_isType (type : MessageType) : (isType type).Obeys law :=
  Spec.obeys_condition

theorem obeys_ensureEmbargo (name : String) (target start : EmbargoState)
    (move : EmbargoMove) :
    (ensureEmbargo name target start move).Obeys law := by
  simp [ensureEmbargo, embargoIn, obeys_moveEmbargo plain]

omit plain in
@[simp]
theorem obeys_handle (name : String) (type : MessageType)
    (behavior : Behavior) :
    (handle name type behavior).Obeys law ↔ behavior.Obeys law := by
  simp [handle]

theorem obeys_processCategory (category : MessageCategory)
    (name abbreviation : String) {ways : List Behavior}
    (each : ∀ way ∈ ways, way.Obeys law) :
    (processCategory category name abbreviation ways).Obeys law := by
  simpa [processCategory, isCategory, obeys_emit plain] using each

theorem obeys_followUpOnError : followUpOnError.Obeys law := by
  simp +decide [followUpOnError, obeys_decision plain, obeys_emit plain]

theorem obeys_processReportMessages : processReportMessages.Obeys law := by
  apply obeys_processCategory plain
  simp [handleSubmission, reportNotIn, isNoVendor, roleIsNot, caseHas,
    obeys_toReport plain, obeys_toCase plain, obeys_emit plain,
    obeys_followUpOnError plain]

theorem obeys_processEmbargoMessages : processEmbargoMessages.Obeys law := by
  apply obeys_processCategory plain
  simp [handleWhileQuiet, handleRevisionResponse, embargoIn, embargoInForce,
    caseQuiet, caseNotQuiet, obeys_moveEmbargo plain,
    obeys_ensureEmbargo plain, obeys_terminateEmbargo plain,
    obeys_followUpOnError plain]

theorem obeys_processCaseMessages : processCaseMessages.Obeys law := by
  apply obeys_processCategory plain
  simp [handlePublicNews, handleExploit, exploitKnown, caseHas,
    obeys_toCase plain, obeys_emit plain, obeys_terminateEmbargo plain,
    obeys_followUpOnError plain]

theorem obeys_processGeneralMessages : processGeneralMessages.Obeys law := by
  apply obeys_processCategory plain
  simp [obeys_followUpOnError plain]

theorem obeys_receiveMessages (incoming : law.Incoming) :
    receiveMessages.Obeys law := by
  simp [receiveMessages, receiveNextMessage, processNextMessage,
    Spec.untilFailure, Spec.forceFailure, Decorator.Honors, reportNotIn,
    inboxNotEmpty, popMessage, noteMessage, dropMessage, pushMessage,
    incoming.pop, incoming.push, incoming.note, incoming.drop,
    obeys_processReportMessages plain, obeys_processEmbargoMessages plain,
    obeys_processCaseMessages plain, obeys_processGeneralMessages plain]

end Plain

/-! ## Work -/

section Work

variable (regular : law.Regular)

include regular

theorem obeys_prioritizeReport : prioritizeReport.Obeys law := by
  have plain := regular.toPlain
  simp +decide [prioritizeReport, considerMoreInfo, acceptIfUrgent,
    ensureDeferred, reportIn, regular.evaluatePriority, obeys_decision plain,
    obeys_toReport plain, obeys_emit plain]

theorem obeys_developFix : developFix.Obeys law := by
  have plain := regular.toPlain
  simp +decide [developFix, vendorHasFix, reportIn, obeys_decision plain,
    obeys_toCase plain, obeys_emit plain]

theorem obeys_deployment : deployment.Obeys law := by
  have plain := regular.toPlain
  simp +decide [deployment, decideWhetherToDeploy, deploy, deployFixWhenReady,
    caseHas, reportIn, isVendor, roleIs, obeys_decision plain,
    obeys_toReport plain, obeys_toCase plain, obeys_emit plain]

theorem obeys_monitorThreats : monitorThreats.Obeys law := by
  have plain := regular.toPlain
  have events : monitorEvents.Obeys law := by
    rw [monitorEvents, Spec.obeys_parallel]
    refine ⟨⟨regular.patient, regular.draw⟩, ?_⟩
    simp +decide [caseLacks, caseHas, moveToPublic, obeys_decision plain,
      obeys_toCase plain, obeys_emit plain]
  simp +decide [monitorThreats, events, obeys_decision plain,
    obeys_terminateEmbargo plain]

theorem obeys_publication : publication.Obeys law := by
  have plain := regular.toPlain
  simp +decide [publication, prepareExploit, prepareFix, prepareReport,
    acquireExploit, vendorHasFix, embargoNoneOrExited, obeys_decision plain,
    obeys_developFix regular, obeys_embargoManagement plain,
    obeys_toCase plain, obeys_emit plain]

theorem obeys_assignIdentifier : assignIdentifier.Obeys law := by
  have plain := regular.toPlain
  simp +decide [assignIdentifier, assignIfAuthority, regular.assignIdentifier,
    obeys_decision plain]

theorem obeys_notifyOthers (telling : law.Telling) :
    notifyOthers.Obeys law := by
  have plain := regular.toPlain
  simp +decide [notifyOthers, pruneRecipients, notifyRecipient,
    ensureOkToNotify, embargoOpen, embargoInForce, telling.choose,
    telling.strike, telling.report, telling.brief, telling.connect,
    obeys_decision plain]

variable (outgoing : law.Outgoing)

include outgoing

theorem obeys_identify (kind : String) {more : Weight} {roles : Roles}
    (settles : more.settles = true) :
    (identify kind more roles).Obeys law := by
  have plain := regular.toPlain
  simp [identify, Spec.forceSuccess, Decorator.Honors, outgoing.inject,
    obeys_decision plain, settles]

theorem obeys_reportToOthers : reportToOthers.Obeys law := by
  have plain := regular.toPlain
  simp +decide [reportToOthers, identifyParticipants,
    obeys_identify regular outgoing,
    obeys_notifyOthers regular outgoing.toTelling, obeys_decision plain]

theorem obeys_doWork : doWork.Obeys law := by
  have plain := regular.toPlain
  rw [doWork, Spec.obeys_parallel]
  refine ⟨⟨regular.patient, regular.draw⟩, ?_⟩
  simp +decide [acquireExploit, obeys_developFix regular,
    obeys_deployment regular, obeys_monitorThreats regular,
    obeys_publication regular, obeys_reportToOthers regular outgoing,
    obeys_assignIdentifier regular, obeys_decision plain]

theorem obeys_reportManagement : reportManagement.Obeys law := by
  have plain := regular.toPlain
  simp [reportManagement, whileReport, closeOr, reportIn,
    obeys_validateReport plain, obeys_closeReport plain,
    obeys_prioritizeReport regular, obeys_doWork regular outgoing]

/-- All that comes after the first step of the protocol. -/
theorem obeys_afterSnapshot (incoming : law.Incoming) {name : String} :
    (Spec.sequence name
      [reportNotIn .closed, discoverVulnerability, receiveMessages,
       reportManagement, embargoManagement]).Obeys law := by
  have plain := regular.toPlain
  simp [reportNotIn, obeys_discoverVulnerability plain,
    obeys_receiveMessages plain incoming,
    obeys_reportManagement regular outgoing, obeys_embargoManagement plain]

end Work

end Behavior

end Disclosure
