import Disclosure.Protocol.Mail

/-!
# Outreach

Finding further vendors, coordinators and others that should hear about the
vulnerability, and telling them one at a time.  Every attempt to tell somebody
costs one unit of a budget.
-/

namespace Disclosure

namespace ActorState

/-- The candidate that is being told, as far as it is known. -/
def recipient? (state : ActorState) : Option Participant :=
  state.notifying.bind state.roster.potential?

/-- Add a new candidate of a kind. -/
def injectCandidate (kind : String) (roles : Roles) (state : ActorState) :
    ActorState :=
  { state with roster := (state.roster.inject kind roles).2 }

/-- Stay with the candidate that is being told, or draw another one. -/
def chooseRecipient (state : ActorState) : Status × ActorState :=
  match state.recipient? with
  | some _ => (.success, state)
  | none =>
    let names := state.roster.potential.map Participant.name
    let (chosen, stream) := state.stream.choose names
    (.ofBool chosen.isSome, { state with stream, notifying := chosen })

/-- The candidate has the report already, or is no candidate any more. -/
def recipientKnows (state : ActorState) : Bool :=
  match state.notifying with
  | none => false
  | some name =>
    match state.roster.potential? name with
    | some candidate => !candidate.isUnnotified
    | none => true

/-- Strike the candidate that is being told. -/
def removeRecipient (state : ActorState) : ActorState :=
  match state.notifying with
  | none => state
  | some name =>
    { state with
      notifying := none, roster := state.roster.removePotential name }

/-- The first message to a newcomer. -/
def firstReport (sender recipient : String) : Message where
  type := .reportSubmission
  sender := sender
  recipient := some recipient
  body := .record [("report", .text "Initial report")]

/-- Send the report to the candidate, at the cost of one unit. -/
def reportToRecipient (state : ActorState) : Status × ActorState :=
  match state.notifying with
  | none => (.failure, state)
  | some name =>
    let budget := if state.budget = 0 then 0 else state.budget - 1
    (.success, { state with budget }.send (firstReport state.name name))

/-- Tell the candidate about the embargo and the public side of the case. -/
def briefRecipient (state : ActorState) : Status × ActorState :=
  match state.notifying, state.recipient? with
  | some name, some _ =>
    let roster := state.roster.modifyPotential name fun candidate =>
      { candidate with
        embargo := state.embargo, state := state.caseState.publicPart }
    (.success, { state with roster })
  | _, _ => (.failure, state)

/-- Take the candidate into the case and introduce it to the others. -/
def connectRecipient (state : ActorState) : Status × ActorState :=
  match state.notifying, state.recipient? with
  | some name, some candidate =>
    let newcomer := { candidate with report := .received }
    let roster := state.roster.modifyPotential name fun _ => newcomer
    (.success,
      { state with
        notifying := none
        roster := (roster.engage name).2
        introduced := state.introduced.push newcomer })
  | _, _ => (.failure, { state with notifying := none })

end ActorState

namespace Behavior

/-- Perhaps find a candidate of a kind. -/
def identify (kind : String) (more : Weight) (roles : Roles) : Behavior :=
  .forceSuccess ("Identify" ++ kind ++ "s")
    (.sequence ("Identify" ++ kind ++ "sSequence")
      [.decision ("More" ++ kind ++ "s") more,
       .effect ("Inject" ++ kind) (ActorState.injectCandidate kind roles)])

/-- Look for candidates, unless all parties are known. -/
def identifyParticipants : Behavior :=
  .fallback "IdentifyParticipants"
    [.decision "AllPartiesKnown" .uniformSucceedFail,
     .sequence "IdentifyPotentialCaseParticipants"
      [identify "Vendor" .usuallyFail (.ofList [.vendor]),
       identify "Coordinator" .almostAlwaysFail (.ofList [.coordinator]),
       identify "Other" .almostAlwaysFail (.ofList [.other])]]

/-- Strike a candidate that needs no telling or is not worth it. -/
def pruneRecipients : Behavior :=
  .sequence "PruneRecipients"
    [.fallback "DecideWhetherToPruneRecipient"
      [.condition "RcptNotInQrmS" ActorState.recipientKnows,
       .decision "RecipientEffortExceeded" .almostCertainlyFail],
     .effect "RemoveRecipient" ActorState.removeRecipient]

/-- Under an embargo, only those are told whose policy is compatible with it. -/
def ensureOkToNotify : Behavior :=
  .fallback "EnsureOkToNotify"
    [embargoOpen,
     .sequence "EnsureRcptPolicyCompatibleWithExistingEmbargo"
      [embargoInForce,
       .decision "PolicyCompatible" .probablySucceed]]

/-- Tell the candidate and take it into the case. -/
def notifyRecipient : Behavior :=
  .sequence "NotifyRecipient"
    [ensureOkToNotify,
     .decision "FindContact" .usuallySucceed,
     .sequence "EngageParticipant"
      [.action "ReportToNewParticipant" ActorState.reportToRecipient,
       .action "BringNewParticipantUpToSpeed" ActorState.briefRecipient,
       .action "ConnectNewParticipantToCase" ActorState.connectRecipient]]

/-- Strike or tell one candidate, unless that work is done. -/
def notifyOthers : Behavior :=
  .fallback "NotifyOthers"
    [.decision "NotificationsComplete" .uniformSucceedFail,
     .sequence "SelectAndProcessRecipient"
      [.action "ChooseRecipient" ActorState.chooseRecipient,
       .fallback "PruneOrNotifyRecipient" [pruneRecipients, notifyRecipient]]]

/-- Reach out to others, for actors that are able to and have budget left. -/
def reportToOthers : Behavior :=
  .sequence "MaybeReportToOthers"
    [.condition "HaveReportToOthersCapability" fun actor =>
      actor.abilities.reportToOthers,
     .fallback "ReportToOthers"
      [.condition "TotalEffortLimitMet" fun actor => actor.budget = 0,
       .sequence "IdentifyAndNotifyParticipants"
        [identifyParticipants, notifyOthers]]]

end Behavior

end Disclosure
