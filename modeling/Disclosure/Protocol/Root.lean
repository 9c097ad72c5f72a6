import Disclosure.Protocol.Identifier
import Disclosure.Protocol.Outreach
import Disclosure.Protocol.Prioritization
import Disclosure.Protocol.Publication
import Disclosure.Protocol.Receiving
import Disclosure.Protocol.Reporting
import Disclosure.Protocol.Threats

/-!
# The protocol

The tree that every actor ticks: note the state, perhaps discover something,
read the mail, take a step with the report and take a step in the embargo talks.
An actor whose report is closed only notes its state.
-/

namespace Disclosure.Behavior

/-- The work on an accepted report, in random order until one part succeeds. -/
def doWork : Behavior :=
  .parallel "DoWork" 1
    [developFix,
     deployment,
     monitorThreats,
     publication,
     reportToOthers,
     assignIdentifier,
     acquireExploit,
     .decision "OtherWork" .alwaysSucceed]

/-- A behavior for one state of the report. -/
def whileReport (name : String) (state : ReportState) (behavior : Behavior) :
    Behavior :=
  .sequence name [reportIn state, behavior]

/-- Close the report, or else go on. -/
def closeOr (name : String) (behavior : Behavior) : Behavior :=
  .fallback name [closeReport, behavior]

/-- The step with the report that its state calls for. -/
def reportManagement : Behavior :=
  .fallback "ReportManagementBt"
    [reportIn .start,
     reportIn .closed,
     whileReport "RmReceived" .received validateReport,
     whileReport "RmInvalid" .invalid (closeOr "CloseOrValidate" validateReport),
     whileReport "RmValid" .valid prioritizeReport,
     whileReport "RmDeferred" .deferred
      (closeOr "CloseOrPrioritize" prioritizeReport),
     whileReport "RmAccepted" .accepted
      (closeOr "CloseOrWork"
        (.sequence "PrioritizeAndWork" [prioritizeReport, doWork]))]

/-- Write a row of the log. -/
def takeSnapshot : Behavior := .effect "Snapshot" ActorState.takeSnapshot

/-- The whole protocol. -/
def protocolRoot : Behavior :=
  .sequence "CvdProtocolBt"
    [takeSnapshot,
     reportNotIn .closed,
     discoverVulnerability,
     receiveMessages,
     reportManagement,
     embargoManagement]

end Disclosure.Behavior
