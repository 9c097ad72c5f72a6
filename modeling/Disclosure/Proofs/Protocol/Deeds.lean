import Disclosure.Proofs.Protocol.Conditions
import Disclosure.Protocol.Root

/-!
# The deeds of an actor

A tick of the protocol goes through a large tree, but it changes the state of
the actor in a small number of ways only.  `Deed` lists them, one constructor
for each, with the condition under which it happens.  Where several changes
belong together because nothing can come between them, they are one deed: a
case flag and the news of it, a move of the embargo and its announcement, what
becomes public and the end of the embargo that it causes.

Whatever each deed preserves, every tick and every run preserves.
-/

namespace Disclosure

/-! ## Embargo moves and the messages about them -/

namespace EmbargoMove

/-- The message by which an actor tells the others that it makes the move. -/
def announcement : EmbargoMove → MessageType
  | propose => .embargoProposal
  | reject => .embargoRejected
  | accept => .embargoAccepted
  | revise => .revisionProposal
  | rejectRevision => .revisionRejected
  | terminate => .embargoTerminated

/-- The move by which an actor follows a message, in the states that the message
is meant for. -/
def following : MessageType → EmbargoState → Option EmbargoMove
  | .embargoProposal, .noEmbargo => some propose
  | .embargoAccepted, .proposed => some accept
  | .revisionProposal, .active => some revise
  | .revisionRejected, .revise => some rejectRevision
  | .revisionAccepted, .revise => some accept
  | .embargoRejected, .proposed => some reject
  | .embargoTerminated, .active => some terminate
  | .embargoTerminated, .revise => some terminate
  | _, _ => none

/-- Moves towards an embargo, which an actor makes in a quiet case only. -/
def offersTerms : EmbargoMove → Bool
  | propose => true
  | revise => true
  | _ => false

/-- Moves away from an embargo, which an actor follows in every case. -/
def endsTalks : EmbargoMove → Bool
  | reject => true
  | terminate => true
  | _ => false

theorem following_starts
    {type : MessageType} {state : EmbargoState} {move : EmbargoMove}
    (follows : following type state = some move) :
    state ∈ move.starts ∧ state ≠ move.target := by
  cases type <;> cases state <;> simp_all [following] <;> subst follows <;>
    decide

end EmbargoMove

namespace ActorState

/-! ## Thinking -/

/-- A decision is settled, or chance is drawn on for something else. -/
inductive Muses : ActorState → ActorState → Prop
  | ask (state : ActorState) (decision : Decision) :
    Muses state (state.decide decision).2
  | draw (state : ActorState) (stream : RandomStream) :
    Muses state { state with stream }

/-- Decisions are settled and chance is drawn on, any number of times. -/
abbrev Ponders : ActorState → ActorState → Prop :=
  Relation.ReflTransGen Muses

/-- Pondering changes nothing but the stream and the record of answers. -/
theorem Ponders.exists_eq {before after : ActorState}
    (ponders : Ponders before after) :
    ∃ stream arbiter, arbiter.policy = before.arbiter.policy ∧
      after = { before with stream, arbiter } := by
  induction ponders with
  | refl => exact ⟨before.stream, before.arbiter, rfl, rfl⟩
  | tail _ muses ih =>
    rcases ih with ⟨stream, arbiter, samePolicy, rfl⟩
    cases muses with
    | ask decision =>
      refine ⟨_, _, ?_, rfl⟩
      exact samePolicy
    | draw stream =>
      refine ⟨stream, arbiter, ?_, rfl⟩
      exact samePolicy

theorem setPriority_eq (priority : Priority) (state : ActorState) :
    state.setPriority priority =
      { state with
        priority
        prioritizations :=
          if priority = state.priority then state.prioritizations
          else state.prioritizations + 1 } := by
  by_cases same : priority = state.priority
  · subst same
    simp only [setPriority, if_true]
  · simp only [setPriority, if_neg same]

@[simp]
theorem setPriority_self (state : ActorState) :
    state.setPriority state.priority = state :=
  if_pos rfl

/-- Whether to change the priority at all. -/
def willingnessDecision (state : ActorState) : Decision :=
  ⟨"WillingToReprioritize", state.willingness⟩

/-- Whether the priority shall be the lowest one. -/
def deferralDecision : Decision := ⟨"DeferReport", .usuallyFail⟩

/-- The actor declines and leaves it at that, or is willing and takes a priority
over after the second question, either the lowest one or one that it draws. -/
theorem evaluatePriority_cases (state : ActorState) :
    ((state.decide state.willingnessDecision).1 ≠ .success ∧
      state.evaluatePriority = (state.decide state.willingnessDecision).2) ∨
    ((state.decide state.willingnessDecision).1 = .success ∧
      ∃ asked, ((state.decide state.willingnessDecision).2.decide
          deferralDecision).2 = asked ∧
        (state.evaluatePriority = asked.setPriority .defer ∨
          state.evaluatePriority =
            asked.drawPriority.2.setPriority asked.drawPriority.1)) := by
  by_cases willing : (state.decide state.willingnessDecision).1 = .success
  case neg => exact .inl ⟨willing, if_neg willing⟩
  refine .inr ⟨willing, _, rfl, ?_⟩
  by_cases deferring : ((state.decide state.willingnessDecision).2.decide
      deferralDecision).1 = .success
  · exact .inl ((if_pos willing).trans (if_pos deferring))
  · exact .inr ((if_pos willing).trans (if_neg deferring))

/-- Evaluating the priority is pondering that may end with another priority. -/
theorem exists_ponders_evaluatePriority (state : ActorState) :
    ∃ middle priority, Ponders state middle ∧
      state.evaluatePriority = middle.setPriority priority := by
  have asked : Ponders state (state.decide state.willingnessDecision).2 :=
    .single (.ask state _)
  rcases state.evaluatePriority_cases with
    ⟨_, declined⟩ | ⟨_, middle, rfl, deferred | drawn⟩
  · exact ⟨_, _, asked, declined.trans (setPriority_self _).symm⟩
  · exact ⟨_, _, asked.tail (.ask _ _), deferred⟩
  · exact ⟨_, _, (asked.tail (.ask _ _)).tail (.draw _ _), drawn⟩

theorem evaluatePriority_eq (state : ActorState) :
    ∃ priority prioritizations stream arbiter,
      arbiter.policy = state.arbiter.policy ∧
        state.evaluatePriority =
          { state with priority, prioritizations, stream, arbiter } := by
  rcases state.exists_ponders_evaluatePriority with
    ⟨middle, priority, ponders, evaluated⟩
  obtain ⟨stream, arbiter, samePolicy, rfl⟩ := ponders.exists_eq
  rw [evaluated, setPriority_eq]
  exact ⟨_, _, stream, arbiter, samePolicy, rfl⟩

/-! ## Changes that belong together -/

/-- A vendor becomes aware of the vulnerability and says so, once. -/
def learn (state : ActorState) : ActorState :=
  if state.roles.vendor ∧ !state.caseState.vendorAware then
    (state.setFlag .vendorAware).broadcast .vendorAware
  else state

/-- Find the vulnerability and submit a report. -/
def discover (state : ActorState) : ActorState :=
  ((state.moveReport .received).broadcast .reportSubmission).learn

/-- Take a submission up. -/
def takeSubmission (state : ActorState) : ActorState :=
  (if state.report = .start then state.moveReport .received else state).learn

/-- Make a move of embargo management and announce it. -/
def announce (move : EmbargoMove) (state : ActorState) : ActorState :=
  (state.moveEmbargo move.target).broadcast move.announcement

/-- Make the vulnerability public and say so, unless it is public. -/
def goPublic (state : ActorState) : ActorState :=
  if state.caseState.publicAware then state
  else (state.setFlag .publicAware).broadcast .publicAware

/-- Note what news of a type says about the case. -/
def hearNews (type : MessageType) (state : ActorState) : ActorState :=
  match type with
  | .publicAware => state.setFlag .publicAware
  | .exploitPublished => (state.setFlag .exploitPublic).goPublic
  | .attacksObserved => state.setFlag .attacksObserved
  | _ => state

/-- Three kinds of event that end an embargo. -/
inductive Threat where
  | attack
  | exploit
  | publicReport

/-- The flag by which it is known that an event of the kind was seen. -/
def Threat.flag : Threat → CaseFlag
  | attack => .attacksObserved
  | exploit => .exploitPublic
  | publicReport => .publicAware

/-- See an event for the first time and announce it. -/
def witness (state : ActorState) : Threat → ActorState
  | .attack => (state.setFlag .attacksObserved).broadcast .attacksObserved
  | .exploit =>
    (state.goPublic.setFlag .exploitPublic).broadcast .exploitPublished
  | .publicReport => (state.setFlag .publicAware).broadcast .publicAware

/-- The decision that is asked before an embargo in force is ended. -/
def exitDecision : Decision := ⟨"OnEmbargoExit", .alwaysSucceed⟩

/-- What becomes of the embargo once something is public: a proposal is
withdrawn, and an embargo in force is terminated if nobody keeps it. -/
inductive EndsEmbargo : ActorState → ActorState → Prop
  | nothing {state : ActorState}
      (none : state.embargo ∈ [.noEmbargo, .exited]) :
    EndsEmbargo state state
  | withdraw {state : ActorState} (proposed : state.embargo = .proposed) :
    EndsEmbargo state (state.announce .reject)
  | terminate {state : ActorState}
      (inForce : state.embargo ∈ [.active, .revise])
      (granted : (state.decide exitDecision).1 = .success) :
    EndsEmbargo state ((state.decide exitDecision).2.announce .terminate)
  | refused {state : ActorState}
      (inForce : state.embargo ∈ [.active, .revise])
      (kept : (state.decide exitDecision).1 ≠ .success) :
    EndsEmbargo state (state.decide exitDecision).2

/-- The decision that is asked before a report is accepted. -/
def acceptDecision : Decision := ⟨"OnAccept", .alwaysSucceed⟩

/-- The decision that is asked before a report is deferred. -/
def deferDecision : Decision := ⟨"OnDefer", .alwaysSucceed⟩

/-- Defer the report unless it is deferred. -/
def putOff (state : ActorState) : ActorState :=
  if state.report = .deferred then state
  else
    let (answer, state) := state.decide deferDecision
    if answer = .success then
      (state.moveReport .deferred).broadcast .reportDeferred
    else state

/-- Look at the priority, and accept or defer the report accordingly. -/
def prioritize (state : ActorState) : ActorState :=
  let state := state.evaluatePriority
  if state.priority = .defer then state.putOff
  else if state.report = .accepted then state
  else
    let (answer, state) := state.decide acceptDecision
    match answer with
    | .success => (state.moveReport .accepted).broadcast .reportAccepted
    | .failure => state.putOff
    | .running => state

/-- Send the report to the candidate, brief it and take it into the case. -/
def engage (state : ActorState) : ActorState :=
  state.reportToRecipient.2.briefRecipient.2.connectRecipient.2

/-- The kinds of candidate that are looked for, with their roles. -/
def candidateKinds : List (String × Roles) :=
  [("Vendor", .ofList [.vendor]), ("Coordinator", .ofList [.coordinator]),
   ("Other", .ofList [.other])]

/-! ## Deeds -/

/-- The ways in which a tick of the protocol changes the state of an actor. -/
inductive Deed : ActorState → ActorState → Prop
  | muse {before after : ActorState} (muses : Muses before after) :
    Deed before after
  | snapshot (state : ActorState) : Deed state state.takeSnapshot
  | discover {state : ActorState}
      (able : state.abilities.discoverVulnerability = true)
      (nothing : state.report = .start) :
    Deed state state.discover
  /-- The oldest message is taken up and noted. -/
  | takeUp {state : ActorState} {message : Message} {rest : List Message}
      (free : state.current = none)
      (waiting : state.inbox = message :: rest) :
    Deed state
      { state with
        current := some message
        inbox := rest
        received := state.received ++ [message.type] }
  /-- A message that was not finished goes back to the head of the inbox. -/
  | putBack {state : ActorState} {message : Message}
      (handled : state.current = some message) :
    Deed state
      { state with current := none, inbox := message :: state.inbox }
  | finish {state : ActorState} {message : Message}
      (handled : state.current = some message) :
    Deed state state.dropMessage
  | acknowledge {state : ActorState} {message : Message}
      (handled : state.current = some message)
      (noAck : message.type.isAck = false) :
    Deed state (state.broadcast message.category.ack)
  | complain {state : ActorState} {message : Message}
      (handled : state.current = some message)
      (noAck : message.type.isAck = false)
      (noError : message.type.isError = false) :
    Deed state (state.broadcast message.category.error)
  | inquire {state : ActorState} {message : Message}
      (handled : state.current = some message)
      (error : message.type.isError = true) :
    Deed state (state.broadcast .inquiry)
  | takeSubmission {state : ActorState} {message : Message}
      (handled : state.current = some message)
      (submission : message.type = .reportSubmission) :
    Deed state state.takeSubmission
  /-- An actor follows the embargo move that another one has announced. -/
  | follow {state : ActorState} {message : Message} {move : EmbargoMove}
      (handled : state.current = some message)
      (follows : EmbargoMove.following message.type state.embargo = some move)
      (viable : (state.caseState.isQuiet || move.endsTalks) = true) :
    Deed state (state.moveEmbargo move.target)
  | hearNews {state after : ActorState} {message : Message}
      (handled : state.current = some message)
      (news : message.type ∈
        [.publicAware, .exploitPublished, .attacksObserved])
      (ends : EndsEmbargo (state.hearNews message.type) after) :
    Deed state after
  | witness {state after : ActorState} (threat : Threat)
      (new : state.caseState.has threat.flag = false)
      (ends : EndsEmbargo (state.witness threat) after) :
    Deed state after
  /-- An actor makes an embargo move of its own. -/
  | announce {state : ActorState} (move : EmbargoMove)
      (starts : state.embargo ∈ move.starts)
      (viable : (state.caseState.isQuiet || !move.offersTerms) = true) :
    Deed state (state.announce move)
  | validate {state : ActorState}
      (undecided : state.report ∈ [.received, .invalid]) :
    Deed state ((state.moveReport .valid).broadcast .reportValid)
  | invalidate {state : ActorState}
      (undecided : state.report ∈ [.received, .invalid]) :
    Deed state ((state.moveReport .invalid).broadcast .reportInvalid)
  | close {state : ActorState}
      (closable : state.report ∈ ReportState.closable)
      (deployed : state.report = .accepted →
        state.caseState.fixDeployed = true) :
    Deed state ((state.moveReport .closed).broadcast .reportClosed)
  | prioritize {state : ActorState}
      (decidable : state.report ∈ [.valid, .deferred, .accepted]) :
    Deed state state.prioritize
  | createFix {state : ActorState}
      (able : state.roles.vendor = true ∧ state.abilities.developFix = true)
      (accepted : state.report = .accepted)
      (missing : state.caseState.vendorHasFix = false)
      (aware : state.caseState.fixReady = true ∨
        state.caseState.vendorAware = true) :
    Deed state ((state.setFlag .fixReady).broadcast .fixReady)
  | deployFix {state : ActorState}
      (able : state.roles.deployer = true ∧ state.abilities.deployFix = true)
      (available : state.roles.vendor = true ∨
        state.caseState.publicAware = true)
      (ready : state.caseState.vendorHasFix = true)
      (missing : state.caseState.fixDeployed = false) :
    Deed state ((state.setFlag .fixDeployed).broadcast .fixDeployed)
  | publish {state : ActorState}
      (free : state.embargo ∈ [.noEmbargo, .exited]) :
    Deed state ((state.setFlag .publicAware).broadcast .publicAware)
  | inject {state : ActorState} {kind : String} {roles : Roles}
      (wanted : (kind, roles) ∈ candidateKinds)
      (able : state.abilities.reportToOthers = true) :
    Deed state (state.injectCandidate kind roles)
  | choose {state : ActorState} (nobody : state.recipient? = none) :
    Deed state state.chooseRecipient.2
  | strike {state : ActorState} {candidate : Participant}
      (known : state.recipient? = some candidate) :
    Deed state state.removeRecipient
  | engage {state : ActorState} {candidate : Participant}
      (known : state.recipient? = some candidate)
      (affordable : state.budget ≠ 0)
      (compatible : state.embargo ≠ .exited) :
    Deed state state.engage
  | assign {state : ActorState} (missing : state.vulnerabilityId = none) :
    Deed state state.assignIdentifier

/-- Any number of deeds. -/
abbrev Deeds : ActorState → ActorState → Prop :=
  Relation.ReflTransGen Deed

theorem Deeds.of_ponders {before after : ActorState}
    (ponders : Ponders before after) :
    Deeds before after :=
  Relation.ReflTransGen.mono (fun _ _ muses => Deed.muse muses) _ _ ponders

/-- What every deed preserves, any number of deeds preserves. -/
theorem Deeds.preserves {property : ActorState → Prop}
    (preserved : ∀ before after, property before → Deed before after →
      property after)
    {before after : ActorState}
    (deeds : Deeds before after)
    (holds : property before) :
    property after := by
  induction deeds with
  | refl => exact holds
  | tail _ deed ih => exact preserved _ _ ih deed

end ActorState

namespace Behavior

variable {bound : Nat}

/-- A vendor becomes aware, unless it is or the actor is no vendor. -/
theorem ensures_learn {name becoming : String} {state : ActorState}
    {post : Status → ActorState → Prop} :
    (Spec.fallback name
      [isNoVendor,
       caseHas .vendorAware,
       .sequence becoming
        [toCase .vendorAware, emit .vendorAware]]).Ensures bound state post ↔
      post .success state.learn := by
  cases vendor : state.roles.vendor <;>
    cases aware : state.caseState.vendorAware <;>
    simp [ActorState.learn, vendor, aware, Status.ofBool, CaseState.has]

/-- The case goes public, unless it is public. -/
theorem ensures_goPublic {name going : String} {state : ActorState}
    {post : Status → ActorState → Prop} :
    (Spec.fallback name
      [caseHas .publicAware,
       .sequence going
        [toCase .publicAware, emit .publicAware]]).Ensures bound state post ↔
      post .success state.goPublic := by
  cases aware : state.caseState.publicAware <;>
    simp [ActorState.goPublic, aware, Status.ofBool, CaseState.has]

end Behavior

end Disclosure
