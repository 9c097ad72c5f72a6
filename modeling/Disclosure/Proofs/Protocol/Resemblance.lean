import Disclosure.Proofs.Protocol.Deeds
import Disclosure.Proofs.Tree.Respects
import Disclosure.Protocol.Root

/-!
# What the protocol sees of a message

Two states resemble each other when the messages that wait and the message that is
being handled have the same types, one by one, and everything else is the same,
except that identifiers may come from different sources.  Hardly any leaf looks at
the messages, and those that do look at their types alone; so the protocol
respects the resemblance as a whole.
-/

namespace Disclosure

namespace ActorState

/-- The same state with other mail, another message being handled, and another
identifier and source of identifiers. -/
abbrev exchange (inbox : List Message) (current : Option Message)
    (identifiers : RandomStream) (vulnerabilityId : Option String)
    (state : ActorState) : ActorState :=
  { state with inbox, current, identifiers, vulnerabilityId }

/-- All is the same but for messages, which agree in their types, and identifiers:
if their sources are `shared` these are the same as well, and if not, there is one
on one side if there is one on the other. -/
inductive Resembles (shared : Prop) (state : ActorState) :
    ActorState → Prop where
  | exchanged {inbox : List Message} {current : Option Message}
      {identifiers : RandomStream} {vulnerabilityId : Option String}
      (waiting : inbox.map Message.type = state.inbox.map Message.type)
      (handled : current.map Message.type = state.current.map Message.type)
      (assigned : vulnerabilityId.isSome = state.vulnerabilityId.isSome)
      (sameSource : shared → identifiers = state.identifiers ∧
        vulnerabilityId = state.vulnerabilityId) :
    Resembles shared state
      (state.exchange inbox current identifiers vulnerabilityId)

theorem pushMessage_eq (state : ActorState) :
    state.pushMessage =
      { state with
        current := none, inbox := state.current.toList ++ state.inbox } := by
  cases state
  simp only [pushMessage]
  split <;> rfl

theorem noteMessage_eq (state : ActorState) :
    state.noteMessage =
      { state with
        received := state.received ++
          (state.current.map Message.type).toList } := by
  cases state
  simp only [noteMessage]
  split
  · rfl
  · simp only [Option.map_none, Option.toList_none, List.append_nil]

/-- A new identifier depends on its source only. -/
theorem exists_assignIdentifier :
    ∃ (next : RandomStream → RandomStream) (text : RandomStream → String),
      ∀ state : ActorState,
        state.assignIdentifier =
          { state with
            identifiers := next state.identifiers
            vulnerabilityId := some (text state.identifiers) } :=
  ⟨fun source => source.next64.2.next64.2,
    fun source =>
      identifierText source.next64.1 source.next64.2.next64.1,
    fun _ => rfl⟩

namespace Resembles

variable {shared : Prop} {state twin : ActorState}

protected theorem refl (state : ActorState) : Resembles shared state state :=
  .exchanged rfl rfl rfl fun _ => ⟨rfl, rfl⟩

theorem mono {other : Prop} (resembles : Resembles shared state twin)
    (enough : other → shared) : Resembles other state twin := by
  cases resembles with
  | exchanged waiting handled assigned sameSource =>
    exact .exchanged waiting handled assigned (sameSource ∘ enough)

/-- What reads none of the fields that may differ reads the same. -/
theorem reads {α : Type} {read : ActorState → α}
    (resembles : Resembles shared state twin)
    (same : ∀ state inbox current identifiers vulnerabilityId,
      read (state.exchange inbox current identifiers vulnerabilityId) =
        read state) :
    read twin = read state := by
  cases resembles with
  | exchanged => exact same ..

theorem waiting (resembles : Resembles shared state twin) :
    twin.inbox.map Message.type = state.inbox.map Message.type := by
  cases resembles with
  | exchanged waiting => exact waiting

/-- What can be done before or after an exchange keeps the resemblance. -/
theorem act {α : Type} (resembles : Resembles shared state twin)
    (act : ActorState → α × ActorState)
    (commutes : ∀ state inbox current identifiers vulnerabilityId,
      act (state.exchange inbox current identifiers vulnerabilityId) =
        ((act state).1,
          (act state).2.exchange inbox current identifiers
            vulnerabilityId)) :
    (act twin).1 = (act state).1 ∧
      Resembles shared (act state).2 (act twin).2 := by
  -- The fields that may differ are not changed, since exchanging them for
  -- themselves makes no difference.
  have keeps : (act state).2 = (act state).2.exchange state.inbox
      state.current state.identifiers state.vulnerabilityId :=
    congrArg Prod.snd (commutes state state.inbox state.current
      state.identifiers state.vulnerabilityId)
  cases resembles with
  | exchanged waiting handled assigned sameSource =>
    rw [commutes, keeps]
    exact ⟨rfl, .exchanged waiting handled assigned sameSource⟩

theorem change {change : ActorState → ActorState}
    (resembles : Resembles shared state twin)
    (commutes : ∀ state inbox current identifiers vulnerabilityId,
      change (state.exchange inbox current identifiers vulnerabilityId) =
        (change state).exchange inbox current identifiers
          vulnerabilityId) :
    Resembles shared (change state) (change twin) :=
  (resembles.act (fun state => ((), change state))
    fun state inbox current identifiers vulnerabilityId => by
      rw [commutes]).2

/-! ### The mail -/

theorem deliver {message other : Message}
    (resembles : Resembles shared state twin)
    (sameType : other.type = message.type) :
    Resembles shared (state.deliver message) (twin.deliver other) := by
  cases resembles with
  | exchanged waiting handled assigned sameSource =>
    refine .exchanged ?_ handled assigned sameSource
    simp [ActorState.deliver, waiting, sameType]

theorem popMessage (resembles : Resembles shared state twin) :
    twin.popMessage.1 = state.popMessage.1 ∧
      Resembles shared state.popMessage.2 twin.popMessage.2 := by
  cases resembles with
  | @exchanged inbox current identifiers vulnerabilityId waiting handled
      assigned sameSource =>
    have stays : Resembles shared state
        (state.exchange inbox current identifiers vulnerabilityId) :=
      .exchanged waiting handled assigned sameSource
    cases busy : state.current with
    | some message =>
      rw [busy] at handled
      obtain ⟨other, rfl, -⟩ := Option.map_eq_some_iff.mp handled
      simp only [ActorState.popMessage, busy]
      exact ⟨trivial, stays⟩
    | none =>
      rw [busy, Option.map_none, Option.map_eq_none_iff] at handled
      subst handled
      cases mail : state.inbox with
      | nil =>
        rw [mail, List.map_nil, List.map_eq_nil_iff] at waiting
        subst waiting
        simp only [ActorState.popMessage, busy, mail]
        exact ⟨trivial, stays⟩
      | cons message rest =>
        rw [mail, List.map_cons] at waiting
        obtain ⟨other, others, rfl, sameType, sameTypes⟩ :=
          List.map_eq_cons_iff.mp waiting
        simp only [ActorState.popMessage, busy, mail]
        exact ⟨trivial, .exchanged sameTypes (congrArg some sameType)
          assigned sameSource⟩

theorem pushMessage (resembles : Resembles shared state twin) :
    Resembles shared state.pushMessage twin.pushMessage := by
  cases resembles with
  | exchanged waiting handled assigned sameSource =>
    rw [pushMessage_eq, pushMessage_eq]
    refine .exchanged ?_ rfl assigned sameSource
    simp only [List.map_append, waiting, ← Option.toList_map, handled]

theorem noteMessage (resembles : Resembles shared state twin) :
    Resembles shared state.noteMessage twin.noteMessage := by
  cases resembles with
  | exchanged waiting handled assigned sameSource =>
    rw [noteMessage_eq, noteMessage_eq]
    simp only [handled]
    exact .exchanged waiting handled assigned sameSource

theorem dropMessage (resembles : Resembles shared state twin) :
    Resembles shared state.dropMessage twin.dropMessage := by
  cases resembles with
  | exchanged waiting handled assigned sameSource =>
    exact .exchanged waiting rfl assigned sameSource

/-- Both get an identifier, the same one if they have the same source. -/
theorem assignIdentifier (resembles : Resembles shared state twin) :
    Resembles shared state.assignIdentifier twin.assignIdentifier := by
  obtain ⟨next, text, assigns⟩ := exists_assignIdentifier
  cases resembles with
  | exchanged waiting handled assigned sameSource =>
    rw [assigns, assigns]
    refine .exchanged waiting handled rfl fun isShared => ?_
    have same := (sameSource isShared).1
    exact ⟨congrArg next same, congrArg (fun source => some (text source)) same⟩

/-! ### Priorities -/

theorem setPriority (resembles : Resembles shared state twin)
    (priority : Priority) :
    Resembles shared (state.setPriority priority)
      (twin.setPriority priority) :=
  resembles.change fun _ _ _ _ _ => by
    simp only [setPriority_eq]

theorem evaluatePriority (resembles : Resembles shared state twin) :
    Resembles shared state.evaluatePriority twin.evaluatePriority := by
  have asked : ∀ {state twin : ActorState}, Resembles shared state twin →
      ∀ decision : Decision,
        (twin.decide decision).1 = (state.decide decision).1 ∧
          Resembles shared (state.decide decision).2
            (twin.decide decision).2 :=
    fun resembles _ => resembles.act _ fun _ _ _ _ _ => rfl
  have sameWillingness : twin.willingness = state.willingness :=
    resembles.reads fun _ _ _ _ _ => rfl
  rcases asked resembles ⟨"WillingToReprioritize", state.willingness⟩ with
    ⟨sameWill, willing⟩
  rcases asked willing ⟨"DeferReport", .usuallyFail⟩ with
    ⟨sameDeferral, deferring⟩
  rcases deferring.act drawPriority (fun _ _ _ _ _ => rfl) with
    ⟨samePriority, drawn⟩
  simp only [ActorState.evaluatePriority, sameWillingness, sameWill,
    sameDeferral, samePriority]
  split
  · split
    · exact deferring.setPriority .defer
    · exact drawn.setPriority _
  · exact willing

end Resembles

end ActorState

namespace Behavior

open ActorState

variable {shared : Prop}

/-! ## Leaves that do not look at messages -/

@[simp]
theorem respects_question {name : String} {holds : ActorState → Bool}
    (same : ∀ state inbox current identifiers vulnerabilityId,
      holds (state.exchange inbox current identifiers vulnerabilityId) =
        holds state) :
    (Spec.condition name holds : Behavior).Respects (Resembles shared) :=
  Spec.respects_condition fun _ _ resembles => resembles.reads same

@[simp]
theorem respects_deed {name : String}
    {act : ActorState → Status × ActorState}
    (commutes : ∀ state inbox current identifiers vulnerabilityId,
      act (state.exchange inbox current identifiers vulnerabilityId) =
        ((act state).1,
          (act state).2.exchange inbox current identifiers
            vulnerabilityId)) :
    (Spec.action name act : Behavior).Respects (Resembles shared) :=
  Spec.respects_action fun _ _ resembles => resembles.act _ commutes

@[simp]
theorem respects_change {name : String} {change : ActorState → ActorState}
    (commutes : ∀ state inbox current identifiers vulnerabilityId,
      change (state.exchange inbox current identifiers vulnerabilityId) =
        (change state).exchange inbox current identifiers
          vulnerabilityId) :
    (Spec.effect name change : Behavior).Respects (Resembles shared) :=
  Spec.respects_effect fun _ _ resembles => resembles.change commutes

@[simp]
theorem respects_decision {name : String} {weight : Weight} :
    (Spec.decision name weight : Behavior).Respects (Resembles shared) :=
  Spec.respects_decision fun _ _ _ resembles =>
    resembles.act _ fun _ _ _ _ _ => rfl

theorem respects_chance {minSuccess : Nat} :
    (Kind.parallel minSuccess : Kind Unit ActorState).Respects
      (Resembles shared) :=
  fun _ _ resembles =>
    ⟨resembles.reads fun _ _ _ _ _ => rfl,
      fun _ => resembles.change fun _ _ _ _ _ => rfl⟩

section Axis

variable {σ : Type} [DecidableEq σ] {axis : Axis σ}

theorem respects_moveTo {name : String} {starts : List σ} {target : σ}
    (same : ∀ state inbox current identifiers vulnerabilityId,
      axis.current
          (state.exchange inbox current identifiers vulnerabilityId) =
        axis.current state)
    (commutes : ∀ state inbox current identifiers vulnerabilityId,
      axis.move target
          (state.exchange inbox current identifiers vulnerabilityId) =
        (axis.move target state).exchange inbox current identifiers
          vulnerabilityId) :
    (axis.moveTo name starts target).Respects (Resembles shared) := by
  simp only [Axis.moveTo, Axis.isIn, Axis.set, Spec.respects_fallback,
    Spec.respects_sequence, List.forall_mem_cons, List.not_mem_nil,
    false_imp_iff, implies_true, and_true]
  exact ⟨respects_question fun _ _ _ _ _ => by rw [same],
    respects_question fun _ _ _ _ _ => by rw [same],
    respects_change commutes⟩

end Axis

@[simp]
theorem respects_reportIn (state : ReportState) :
    (reportIn state).Respects (Resembles shared) :=
  respects_question fun _ _ _ _ _ => rfl

@[simp]
theorem respects_reportNotIn (state : ReportState) :
    (reportNotIn state).Respects (Resembles shared) :=
  respects_question fun _ _ _ _ _ => rfl

@[simp]
theorem respects_reportInAny {name : String} {states : List ReportState} :
    (reportAxis.inAny name states).Respects (Resembles shared) :=
  respects_question fun _ _ _ _ _ => rfl

@[simp]
theorem respects_embargoIn (state : EmbargoState) :
    (embargoIn state).Respects (Resembles shared) :=
  respects_question fun _ _ _ _ _ => rfl

@[simp]
theorem respects_embargoNotIn (state : EmbargoState) :
    (embargoNotIn state).Respects (Resembles shared) :=
  respects_question fun _ _ _ _ _ => rfl

@[simp]
theorem respects_embargoInAny {name : String}
    {states : List EmbargoState} :
    (embargoAxis.inAny name states).Respects (Resembles shared) :=
  respects_question fun _ _ _ _ _ => rfl

@[simp]
theorem respects_toReport (target : ReportState) :
    (toReport target).Respects (Resembles shared) :=
  respects_moveTo (fun _ _ _ _ _ => rfl) fun state _ _ _ _ => by
    simp only [reportAxis, moveReport_eq]

@[simp]
theorem respects_moveEmbargo (move : EmbargoMove) :
    (moveEmbargo move).Respects (Resembles shared) :=
  respects_moveTo (fun _ _ _ _ _ => rfl) fun state _ _ _ _ => by
    simp only [embargoAxis, moveEmbargo_eq]

@[simp]
theorem respects_setFlag {name : String} (flag : CaseFlag) :
    (Spec.effect name (ActorState.setFlag flag) : Behavior).Respects
      (Resembles shared) :=
  respects_change fun _ _ _ _ _ => by
    simp only [setFlag, moveCase_eq]

@[simp]
theorem respects_emit (type : MessageType) :
    (emit type).Respects (Resembles shared) :=
  respects_change fun _ _ _ _ _ => rfl

@[simp]
theorem respects_toCase (flag : CaseFlag) :
    (toCase flag).Respects (Resembles shared) := by
  cases flag <;> simp [toCase, guardedFlag, caseHas, vendorHasFix]

/-! ## Leaves that look at messages -/

/-- What is asked about the type of the message being handled has one answer. -/
theorem respects_ofType {name : String} (holds : MessageType → Bool) :
    (Spec.condition name fun actor =>
        actor.current.any fun message => holds message.type :
          Behavior).Respects (Resembles shared) := by
  refine Spec.respects_condition fun state twin resembles => ?_
  cases resembles with
  | @exchanged _ current _ _ _ handled =>
    have ofType := congrArg (Option.any holds) handled
    rwa [Option.any_map, Option.any_map] at ofType

@[simp]
theorem respects_isType (type : MessageType) :
    (isType type).Respects (Resembles shared) :=
  respects_ofType (· == type)

@[simp]
theorem respects_isCategory (category : MessageCategory) :
    (isCategory category).Respects (Resembles shared) :=
  respects_ofType (·.category == category)

@[simp]
theorem respects_inboxNotEmpty :
    inboxNotEmpty.Respects (Resembles shared) := by
  refine Spec.respects_condition fun state twin resembles => ?_
  have sameEmptiness := congrArg List.isEmpty resembles.waiting
  rw [List.isEmpty_map, List.isEmpty_map] at sameEmptiness
  exact congrArg not sameEmptiness

@[simp]
theorem respects_popMessage : popMessage.Respects (Resembles shared) :=
  Spec.respects_action fun _ _ resembles => resembles.popMessage

@[simp]
theorem respects_pushMessage : pushMessage.Respects (Resembles shared) :=
  Spec.respects_effect fun _ _ resembles => resembles.pushMessage

@[simp]
theorem respects_noteMessage : noteMessage.Respects (Resembles shared) :=
  Spec.respects_effect fun _ _ resembles => resembles.noteMessage

@[simp]
theorem respects_dropMessage : dropMessage.Respects (Resembles shared) :=
  Spec.respects_effect fun _ _ resembles => resembles.dropMessage

/-! ## The parts of the protocol -/

@[simp]
theorem respects_terminateEmbargo :
    terminateEmbargo.Respects (Resembles shared) := by
  simp [terminateEmbargo, otherReasonToExit, embargoNoneOrExited,
    embargoInForce, caseNotQuiet, caseHas, isNoDeployer, roleIsNot]

@[simp]
theorem respects_embargoManagement :
    embargoManagement.Respects (Resembles shared) := by
  simp [embargoManagement, reportStartOrClosed, withoutEmbargo, withProposal,
    withEmbargo, withRevision, evaluateAndAccept, counterProposal,
    proposeEmbargo, embargoInForce, caseQuiet, caseNotQuiet, caseLacks,
    Spec.invert]

@[simp]
theorem respects_discoverVulnerability :
    discoverVulnerability.Respects (Resembles shared) := by
  simp [discoverVulnerability, isNoVendor, roleIsNot, caseHas]

/-! ### The mail -/

@[simp]
theorem respects_followUpOnError :
    followUpOnError.Respects (Resembles shared) := by
  simp [followUpOnError]

theorem respects_processCategory {category : MessageCategory}
    {name abbreviation : String} {ways : List Behavior}
    (each : ∀ way ∈ ways, way.Respects (Resembles shared)) :
    (processCategory category name abbreviation ways).Respects
      (Resembles shared) := by
  simpa [processCategory] using each

@[simp]
theorem respects_receiveMessages :
    receiveMessages.Respects (Resembles shared) := by
  have reports : processReportMessages.Respects (Resembles shared) :=
    respects_processCategory (by
      simp [handleSubmission, handle, isNoVendor, roleIsNot, caseHas])
  have embargoes : processEmbargoMessages.Respects (Resembles shared) :=
    respects_processCategory (by
      simp [handle, ensureEmbargo, embargoInForce, handleWhileQuiet,
        handleRevisionResponse, caseQuiet, caseNotQuiet])
  have news : processCaseMessages.Respects (Resembles shared) :=
    respects_processCategory (by
      simp [handle, handlePublicNews, handleExploit, exploitKnown, caseHas])
  have talk : processGeneralMessages.Respects (Resembles shared) :=
    respects_processCategory (by simp [handle])
  simp [receiveMessages, receiveNextMessage, processNextMessage,
    Spec.untilFailure, Spec.forceFailure, reports, embargoes, news, talk]

/-! ### Work -/

@[simp]
theorem respects_prioritizeReport :
    prioritizeReport.Respects (Resembles shared) := by
  have evaluate : ∀ name, (Spec.effect name
      ActorState.evaluatePriority : Behavior).Respects (Resembles shared) :=
    fun _ => Spec.respects_effect fun _ _ resembles =>
      resembles.evaluatePriority
  simp [prioritizeReport, considerMoreInfo, acceptIfUrgent, ensureDeferred,
    evaluate]

@[simp]
theorem respects_developFix : developFix.Respects (Resembles shared) := by
  simp [developFix, vendorHasFix]

@[simp]
theorem respects_deployment : deployment.Respects (Resembles shared) := by
  simp [deployment, decideWhetherToDeploy, deploy, deployFixWhenReady,
    caseHas, isVendor, roleIs]

@[simp]
theorem respects_monitorThreats :
    monitorThreats.Respects (Resembles shared) := by
  have events : monitorEvents.Respects (Resembles shared) := by
    rw [monitorEvents, Spec.respects_parallel]
    refine ⟨respects_chance, ?_⟩
    simp [caseLacks, caseHas, moveToPublic]
  simp [monitorThreats, events]

@[simp]
theorem respects_publication : publication.Respects (Resembles shared) := by
  simp [publication, prepareExploit, prepareFix, prepareReport,
    acquireExploit, vendorHasFix, embargoNoneOrExited]

/-- Identifiers are the one thing apart from messages that may differ. -/
@[simp]
theorem respects_assignIdentifier :
    assignIdentifier.Respects (Resembles shared) := by
  have assigned : ∀ name, (Spec.condition name fun actor =>
      actor.vulnerabilityId.isSome : Behavior).Respects
        (Resembles shared) :=
    fun _ => Spec.respects_condition fun _ _ resembles => by
      cases resembles with
      | exchanged _ _ assigned => exact assigned
  have record : ∀ name, (Spec.effect name
      ActorState.assignIdentifier : Behavior).Respects
        (Resembles shared) :=
    fun _ => Spec.respects_effect fun _ _ resembles =>
      resembles.assignIdentifier
  simp [assignIdentifier, assignIfAuthority, assigned, record]

@[simp]
theorem respects_identify {kind : String} {more : Weight} {roles : Roles} :
    (identify kind more roles).Respects (Resembles shared) := by
  have inject : ∀ name, (Spec.effect name
      (injectCandidate kind roles) : Behavior).Respects (Resembles shared) :=
    fun _ => respects_change fun _ _ _ _ _ => rfl
  simp [identify, Spec.forceSuccess, inject]

/-- The candidate that is being told does not depend on messages. -/
theorem recipient?_exchange (state : ActorState) {inbox : List Message}
    {current : Option Message} {identifiers : RandomStream}
    {vulnerabilityId : Option String} :
    (state.exchange inbox current identifiers vulnerabilityId).recipient? =
      state.recipient? := rfl

@[simp]
theorem respects_pruneRecipients :
    pruneRecipients.Respects (Resembles shared) := by
  have knows : ∀ name, (Spec.condition name
      ActorState.recipientKnows : Behavior).Respects (Resembles shared) :=
    fun _ => respects_question fun _ _ _ _ _ => rfl
  have strike : ∀ name, (Spec.effect name
      ActorState.removeRecipient : Behavior).Respects (Resembles shared) :=
    fun _ => respects_change fun state _ _ _ _ => by
      simp only [removeRecipient]
      cases state.notifying <;> rfl
  simp [pruneRecipients, knows, strike]

@[simp]
theorem respects_notifyRecipient :
    notifyRecipient.Respects (Resembles shared) := by
  have report : ∀ name, (Spec.action name
      ActorState.reportToRecipient : Behavior).Respects (Resembles shared) :=
    fun _ => respects_deed fun state _ _ _ _ => by
      simp only [reportToRecipient]
      cases state.notifying <;> rfl
  have brief : ∀ name, (Spec.action name
      ActorState.briefRecipient : Behavior).Respects (Resembles shared) :=
    fun _ => respects_deed fun state _ _ _ _ => by
      simp only [briefRecipient, recipient?_exchange]
      cases state.notifying <;> cases state.recipient? <;> rfl
  have connect : ∀ name, (Spec.action name
      ActorState.connectRecipient : Behavior).Respects (Resembles shared) :=
    fun _ => respects_deed fun state _ _ _ _ => by
      simp only [connectRecipient, recipient?_exchange]
      cases state.notifying <;> cases state.recipient? <;> rfl
  simp [notifyRecipient, ensureOkToNotify, embargoOpen, embargoInForce,
    report, brief, connect]

@[simp]
theorem respects_reportToOthers :
    reportToOthers.Respects (Resembles shared) := by
  have choose : ∀ name, (Spec.action name
      ActorState.chooseRecipient : Behavior).Respects (Resembles shared) :=
    fun _ => respects_deed fun state _ _ _ _ => by
      simp only [chooseRecipient, recipient?_exchange]
      cases state.recipient? <;> rfl
  simp [reportToOthers, identifyParticipants, notifyOthers, choose]

@[simp]
theorem respects_reportManagement :
    reportManagement.Respects (Resembles shared) := by
  have validates : validateReport.Respects (Resembles shared) := by
    simp [validateReport, ensureValidationInfo, evaluateReport]
  have closes : closeReport.Respects (Resembles shared) := by
    simp [closeReport, caseHas]
  have works : doWork.Respects (Resembles shared) := by
    rw [doWork, Spec.respects_parallel]
    refine ⟨respects_chance, ?_⟩
    simp [acquireExploit]
  simp [reportManagement, whileReport, closeOr, validates, closes, works]

/-- The protocol sees nothing of a message but its type. -/
theorem respects_protocolRoot :
    protocolRoot.Respects (Resembles shared) := by
  have snapshot : takeSnapshot.Respects (Resembles shared) :=
    respects_change fun _ _ _ _ _ => rfl
  simp [protocolRoot, snapshot]

end Behavior

end Disclosure
