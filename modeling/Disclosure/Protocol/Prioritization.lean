import Disclosure.Protocol.Mail

/-!
# Prioritization

Whether a valid report is worked on.  The priority is looked at again and again,
but with every change the willingness to change it once more is halved.
-/

namespace Disclosure

namespace ActorState

/-- How willing the actor is to change the priority. -/
def willingness (state : ActorState) : Weight :=
  .chance (halfPower state.prioritizations.toInt32.toInt)

/-- Draw one of the priorities with which a report is accepted. -/
def drawPriority (state : ActorState) : Priority × ActorState :=
  let (drawn, stream) := state.stream.choose Priority.active
  (drawn.getD .scheduled, { state with stream })

/-- Take a priority over, counting changes. -/
def setPriority (priority : Priority) (state : ActorState) : ActorState :=
  if priority = state.priority then state
  else
    { state with priority, prioritizations := state.prioritizations + 1 }

/-- Look at the priority, if willing to. -/
def evaluatePriority (state : ActorState) : ActorState :=
  let (willing, state) :=
    state.decide ⟨"WillingToReprioritize", state.willingness⟩
  if willing = .success then
    let (deferring, state) := state.decide ⟨"DeferReport", .usuallyFail⟩
    if deferring = .success then state.setPriority .defer
    else
      let (priority, state) := state.drawPriority
      state.setPriority priority
  else state

end ActorState

namespace Behavior

/-- Stay where one is for want of new information. -/
def considerMoreInfo : Behavior :=
  .sequence "ConsiderGatheringMorePrioritizationInfo"
    [reportAxis.inAny "DeferredOrAccepted" [.deferred, .accepted],
     .fallback "EnsureAdequatePrioritizationInfo"
      [.decision "EnoughPrioritizationInfo" .usuallySucceed,
       .sequence "GetMorePrioritizationInfo"
        [.decision "GatherPrioritizationInfo" .almostAlwaysSucceed,
         .decision "NoNewPrioritizationInfo" .probablySucceed]]]

/-- Accept the report if its priority calls for work. -/
def acceptIfUrgent : Behavior :=
  .sequence "DecideIfFurtherActionNeeded"
    [reportAxis.inAny "ValidOrDeferredOrAccepted"
      [.valid, .deferred, .accepted],
     .effect "EvaluatePriority" ActorState.evaluatePriority,
     .condition "PriorityNotDefer" fun actor => actor.priority ≠ .defer,
     .fallback "EnsureRmAccepted"
      [reportIn .accepted,
       .sequence "TransitionToRmAccepted"
        [.decision "OnAccept" .alwaysSucceed,
         toReport .accepted,
         emit .reportAccepted]]]

/-- Defer the report. -/
def ensureDeferred : Behavior :=
  .fallback "EnsureRmDeferred"
    [reportIn .deferred,
     .sequence "TransitionToRmDeferred"
      [.decision "OnDefer" .alwaysSucceed,
       toReport .deferred,
       emit .reportDeferred]]

/-- Accept a report that is urgent and defer any other. -/
def prioritizeReport : Behavior :=
  .fallback "RMPrioritizeBt"
    [considerMoreInfo, acceptIfUrgent, ensureDeferred]

end Behavior

end Disclosure
