import Disclosure.Protocol.EmbargoTalks

/-!
# Receiving

What an actor does with the messages of others, in the order of their arrival.
A message is an acknowledgement, which calls for nothing, or it is handled and
acknowledged, or it is answered by the error of its category.
-/

namespace Disclosure.Behavior

/-- Handle messages of one type. -/
def handle (name : String) (type : MessageType) (behavior : Behavior) :
    Behavior :=
  .sequence name [isType type, behavior]

/-- Be in an embargo state, or move there from the one that leads there. -/
def ensureEmbargo (name : String) (target start : EmbargoState)
    (move : EmbargoMove) : Behavior :=
  .fallback ("Ensure" ++ name)
    [embargoIn target,
     .sequence ("Recognize" ++ name) [embargoIn start, moveEmbargo move]]

/--
The common shape of the four handlers: nothing for an acknowledgement, else one
of the ways to handle the message and an acknowledgement, else an error.
-/
def processCategory (category : MessageCategory) (name abbreviation : String)
    (ways : List Behavior) : Behavior :=
  .sequence name
    [isCategory category,
     .fallback ("Handle" ++ abbreviation ++ "Message")
      [isType category.ack,
       .sequence ("HandleAndAck" ++ abbreviation ++ "Message")
        [.fallback ("HandleAckable" ++ abbreviation ++ "Message") ways,
         emit category.ack],
       emit category.error]]

/-! ## Reports -/

/-- A submission makes the report received and a vendor aware. -/
def handleSubmission : Behavior :=
  handle "HandleRs" .reportSubmission
    (.sequence "RecognizeReport"
      [.fallback "EnsureRmReceived" [reportNotIn .start, toReport .received],
       .fallback "EnsureVendorAware"
        [isNoVendor,
         caseHas .vendorAware,
         .sequence "BecomeVendorAware"
          [toCase .vendorAware, emit .vendorAware]]])

/-- Handle messages about the report. -/
def processReportMessages : Behavior :=
  processCategory .report "ProcessRMMessagesBt" "Rm"
    [handleSubmission,
     handle "HandleRe" .reportError followUpOnError,
     reportNotIn .start]

/-! ## Embargoes -/

/-- An answer to a revision leads back to the embargo. -/
def handleRevisionResponse : Behavior :=
  .sequence "HandleRevisionResponse"
    [.fallback "IsEjOrEc" [isType .revisionRejected, isType .revisionAccepted],
     .fallback "EnsureEmActive"
      [embargoIn .active,
       .sequence "HandleEjOrEc"
        [embargoIn .revise,
         .fallback "SelectEjOrEcResponse"
          [handle "HandleEj" .revisionRejected (moveEmbargo .rejectRevision),
           handle "HandleEc" .revisionAccepted (moveEmbargo .accept)]]]]

/-- Moves towards an embargo are followed while the case is quiet. -/
def handleWhileQuiet : Behavior :=
  .sequence "HandleCSpxa"
    [caseQuiet,
     .fallback "HandleMessagesInpxa"
      [handle "HandleEp" .embargoProposal
        (ensureEmbargo "ProposalRecognized" .proposed .noEmbargo .propose),
       handle "HandleEa" .embargoAccepted
        (ensureEmbargo "EmbargoActivated" .active .proposed .accept),
       handle "HandleEv" .revisionProposal
        (ensureEmbargo "RevisionRecognized" .revise .active .revise),
       handleRevisionResponse]]

/-- Handle messages about the embargo. -/
def processEmbargoMessages : Behavior :=
  processCategory .embargo "ProcessEMMessagesBt" "Em"
    [handle "HandleEe" .embargoError followUpOnError,
     handle "HandleEt" .embargoTerminated
      (.fallback "EnsureEmbargoExited"
        [embargoIn .exited,
         .sequence "RecognizeEmbargoExit"
          [embargoInForce, moveEmbargo .terminate]]),
     handle "HandleEr" .embargoRejected
      (ensureEmbargo "RejectionRecognized" .noEmbargo .proposed .reject),
     handleWhileQuiet,
     .sequence "AvoidNonViableEmbargo" [caseNotQuiet, terminateEmbargo]]

/-! ## The case -/

/-- A published exploit makes the case public as well. -/
def handleExploit : Behavior :=
  handle "HandleCx" .exploitPublished
    (.fallback "EnsureExploitAndPublic"
      [exploitKnown,
       .sequence "RecognizeExploitPublic"
        [toCase .exploitPublic,
         .fallback "EnsurePublicAware"
          [caseHas .publicAware,
           .sequence "BecomePublicAware"
            [toCase .publicAware, emit .publicAware]]]])

/-- What becomes public ends the embargo. -/
def handlePublicNews : Behavior :=
  .sequence "HandleCpCxCa"
    [.fallback "RecognizeCpCxCa"
      [handle "HandleCp" .publicAware
        (.fallback "EnsureCsP" [caseHas .publicAware, toCase .publicAware]),
       handleExploit,
       handle "HandleCa" .attacksObserved
        (.fallback "EnsureCsA"
          [caseHas .attacksObserved, toCase .attacksObserved])],
     terminateEmbargo]

/-- Handle messages about the case. -/
def processCaseMessages : Behavior :=
  processCategory .caseState "ProcessCSMessagesBt" "Cs"
    [handlePublicNews,
     isType .vendorAware,
     isType .fixReady,
     isType .fixDeployed,
     handle "HandleCe" .caseError followUpOnError]

/-! ## General talk -/

/-- Handle all other messages. -/
def processGeneralMessages : Behavior :=
  processCategory .general "ProcessMessagesOtherBt" "Gm"
    [isType .inquiry,
     handle "HandleGe" .generalError followUpOnError]

/-! ## The inbox -/

/-- Take one message up, handle it and be done with it. -/
def processNextMessage : Behavior :=
  .sequence "ProcessNextMessage"
    [inboxNotEmpty,
     popMessage,
     noteMessage,
     .fallback "HandleMessage"
      [processReportMessages,
       processEmbargoMessages,
       processCaseMessages,
       processGeneralMessages],
     dropMessage]

/-- One turn of the loop below. -/
def receiveNextMessage : Behavior :=
  .sequence "ReceiveNextMessage"
    [reportNotIn .closed,
     inboxNotEmpty,
     .fallback "ProcessMessage"
      [processNextMessage,
       .forceFailure "RequeueMessage" pushMessage]]

/--
Empty the inbox in the order of arrival.  A message that cannot be handled goes
back to the head and ends the loop.
-/
def receiveMessages : Behavior :=
  .untilFailure "ReceiveMessagesBt" receiveNextMessage

end Disclosure.Behavior
