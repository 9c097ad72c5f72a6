import Disclosure.Protocol.Mail

/-!
# Embargo talks

How an actor proposes, accepts, counters, rejects, revises and ends embargoes.
In one tick it takes one such step at most, and tells everybody which one.
-/

namespace Disclosure.Behavior

/-- Reasons to end an embargo that lie with the actor itself. -/
def otherReasonToExit : Behavior :=
  .fallback "OtherReasonToExitEmbargo"
    [.sequence "ExitWhenDeployed"
      [caseHas .fixDeployed,
       .decision "ExitEmbargoWhenDeployed" .probablyFail],
     .sequence "ExitWhenFixReady"
      [caseHas .fixReady,
       isNoDeployer,
       .decision "ExitEmbargoWhenFixReady" .usuallyFail],
     .decision "ExitEmbargoForOtherReason" .oneInTwoHundred]

/--
End what there is of an embargo when the case is public or the actor has its own
reasons: a proposal is withdrawn, an embargo in force is terminated.
-/
def terminateEmbargo : Behavior :=
  .fallback "TerminateEmbargoBt"
    [embargoNoneOrExited,
     .sequence "WithdrawProposal"
      [embargoIn .proposed,
       .fallback "ReasonToWithdraw" [caseNotQuiet, otherReasonToExit],
       moveEmbargo .reject,
       emit .embargoRejected],
     .sequence "ExitEmbargo"
      [embargoInForce,
       .fallback "ReasonToExit"
        [caseNotQuiet,
         .decision "EmbargoTimerExpired" .oneInOneHundred,
         otherReasonToExit],
       .decision "OnEmbargoExit" .alwaysSucceed,
       moveEmbargo .terminate,
       emit .embargoTerminated]]

/-- Offer terms: a proposal where nothing is agreed, a revision elsewhere. -/
def proposeEmbargo : Behavior :=
  .sequence "ProposeEmbargoBt"
    [embargoNotIn .exited,
     caseQuiet,
     .fallback "AvoidNewEmbargoWhenDeployed"
      [caseLacks .fixDeployed,
       .decision "ReasonToProposeEmbargoWhenDeployed" .almostCertainlyFail],
     .decision "SelectEmbargoOfferTerms" .alwaysSucceed,
     .fallback "ChooseProposalKind"
      [.sequence "SkipCounterProposal"
        [embargoAxis.inAny "ProposedOrRevise" [.proposed, .revise],
         .invert "AvoidEmbargoCounterProposal"
          (.decision "WillingToCounterEmbargoProposal" .usuallyFail)],
       .sequence "ProposeNewEmbargo"
        [embargoAxis.inAny "NoneOrProposed" [.noEmbargo, .proposed],
         moveEmbargo .propose,
         emit .embargoProposal],
       .sequence "ProposeEmbargoRevision"
        [embargoInForce,
         moveEmbargo .revise,
         emit .revisionProposal]]]

/-- Accept the terms on the table. -/
def evaluateAndAccept : Behavior :=
  .sequence "EvaluateAndAcceptProposedEmbargo"
    [.decision "EvaluateEmbargoProposal" .usuallySucceed,
     .decision "OnEmbargoAccept" .alwaysSucceed,
     moveEmbargo .accept,
     emit .embargoAccepted]

/-- Answer an offer with other terms. -/
def counterProposal : Behavior :=
  .sequence "CounterProposal"
    [.decision "WillingToCounterEmbargoProposal" .usuallyFail,
     proposeEmbargo]

/-- While there is no embargo. -/
def withoutEmbargo : Behavior :=
  .sequence "EmNone"
    [embargoIn .noEmbargo,
     .fallback "MaybeProposeEmbargo"
      [.decision "StopProposingEmbargo" .usuallyFail,
       proposeEmbargo]]

/-- While an embargo is proposed. -/
def withProposal : Behavior :=
  .sequence "EmProposed"
    [embargoIn .proposed,
     .fallback "ChooseEmProposedResponse"
      [terminateEmbargo,
       evaluateAndAccept,
       counterProposal,
       .sequence "RejectProposedEmbargo"
        [.decision "OnEmbargoReject" .alwaysSucceed,
         moveEmbargo .reject,
         emit .embargoRejected]]]

/-- While an embargo is in force. -/
def withEmbargo : Behavior :=
  .sequence "EmActive"
    [embargoIn .active,
     .fallback "ChooseEmActiveResponse"
      [terminateEmbargo,
       .decision "CurrentEmbargoAcceptable" .almostAlwaysSucceed,
       proposeEmbargo]]

/-- While an embargo is being revised. -/
def withRevision : Behavior :=
  .sequence "EmRevise"
    [embargoIn .revise,
     .fallback "ChooseEmReviseResponse"
      [terminateEmbargo,
       evaluateAndAccept,
       counterProposal,
       .sequence "RejectRevision"
        [.decision "OnEmbargoReject" .alwaysSucceed,
         moveEmbargo .rejectRevision,
         emit .revisionRejected]]]

/-- The part of the embargo talks that each tick gives to an actor. -/
def embargoManagement : Behavior :=
  .fallback "EmbargoManagementBt"
    [reportStartOrClosed,
     embargoIn .exited,
     .sequence "AvoidNewEmbargoWhenNotInCs_pxa"
      [caseNotQuiet, embargoIn .noEmbargo],
     withoutEmbargo,
     withProposal,
     withEmbargo,
     withRevision]

end Disclosure.Behavior
