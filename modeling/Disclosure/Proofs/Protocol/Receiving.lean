import Disclosure.Proofs.Protocol.Handling

/-!
# Receiving messages

Every message that is taken up is either an acknowledgement, which changes
nothing, or it is handled and answered by one reply at last, or it is left in
hand because a decision is pending.  The loop over the inbox takes the messages
up in the order of their arrival until none is left, or until it is interrupted.
-/

namespace Disclosure

namespace MessageType

theorem eq_ack_iff {type : MessageType} :
    type = type.category.ack ↔ type.isAck = true := by
  cases type <;> decide

theorem isError_iff {type : MessageType} :
    type.isError = true ↔ type = type.category.error := by
  cases type <;> decide

end MessageType

namespace Behavior

open ActorState Course Deliberation

variable {bound : Nat} {pending : Bool} {message : Message}

/-- How the handling of a message ends. -/
inductive Handled (pending : Bool) (message : Message)
    (before : ActorState) : Status → ActorState → Prop
  /-- There is nothing to do about an acknowledgement. -/
  | acknowledgement (ack : message.type.isAck = true) :
    Handled pending message before .success before
  | answered {middle : ActorState} {reply : MessageType}
      (noAck : message.type.isAck = false)
      (path : (handling pending message).Path before middle)
      (replies : message.type.Replies reply) :
    Handled pending message before .success (middle.broadcast reply)
  | interrupted {after : ActorState}
      (noAck : message.type.isAck = false)
      (allowed : pending = true)
      (path : (handling pending message).Path before after) :
    Handled pending message before .running after

/-! ## The four handlers -/

theorem any_category {state : ActorState} {category : MessageCategory}
    (handled : state.current = some message) :
    (state.current.any fun other => other.category == category) =
      decide (message.category = category) := by
  rw [handled]
  rfl

/-- What is ensured when a message is answered according to how its handling
went: by the acknowledgement, by the error, or not yet. -/
def replying (message : Message) (post : Status → ActorState → Prop) :
    Status → ActorState → Prop
  | .success, middle => post .success (middle.broadcast message.category.ack)
  | .failure, middle => post .success (middle.broadcast message.category.error)
  | .running, middle => post .running middle

/-- The common shape: a handler passes over the messages of other categories and
over the acknowledgement of its own, and replies to all the others. -/
theorem ensures_processCategory {category : MessageCategory}
    {name abbreviation : String} {ways : List Behavior} {state : ActorState}
    {post : Status → ActorState → Prop}
    (handled : state.current = some message) :
    (processCategory category name abbreviation ways).Ensures bound state
        post ↔
      if message.category = category then
        if message.type.isAck then post .success state
        else
          (Spec.fallback ("HandleAckable" ++ abbreviation ++ "Message")
            ways).Ensures bound state (replying message post)
      else post .failure state := by
  rw [processCategory, Spec.ensures_sequence_cons, ensures_isCategory,
    any_category handled]
  by_cases concerned : message.category = category
  case neg =>
    simp [concerned, Status.ofBool]
  case pos =>
    subst concerned
    rw [if_pos rfl, decide_eq_true (Eq.refl message.category),
      if_pos (by rfl), Spec.ensures_sequence_singleton, Spec.ensures_fallback_cons,
      ensures_isType, any_type handled]
    by_cases ack : message.type.isAck = true
    · have isAck : message.type = message.category.ack :=
        MessageType.eq_ack_iff.mpr ack
      rw [if_pos ack, decide_eq_true isAck]
      rfl
    · have isNoAck : ¬ message.type = message.category.ack :=
        fun same => ack (MessageType.eq_ack_iff.mp same)
      rw [if_neg ack, decide_eq_false isNoAck, if_pos (by rfl),
        Spec.ensures_fallback_cons, Spec.ensures_sequence_cons]
      apply Tree.ensures_congr
      intro status middle
      cases status <;> simp [replying]

/-- The ways to handle the messages of a category. -/
def waysOf : MessageCategory → List Behavior
  | .report =>
    [handleSubmission,
     handle "HandleRe" .reportError followUpOnError,
     reportNotIn .start]
  | .embargo =>
    [handle "HandleEe" .embargoError followUpOnError,
     handle "HandleEt" .embargoTerminated
      (.fallback "EnsureEmbargoExited"
        [embargoIn .exited,
         .sequence "RecognizeEmbargoExit"
          [embargoInForce, moveEmbargo .terminate]]),
     handle "HandleEr" .embargoRejected
      (ensureEmbargo "RejectionRecognized" .noEmbargo .proposed .reject),
     handleWhileQuiet,
     .sequence "AvoidNonViableEmbargo" [caseNotQuiet, terminateEmbargo]]
  | .caseState =>
    [handlePublicNews,
     isType .vendorAware,
     isType .fixReady,
     isType .fixDeployed,
     handle "HandleCe" .caseError followUpOnError]
  | .general =>
    [isType .inquiry,
     handle "HandleGe" .generalError followUpOnError]

/-- The short name of a category in the names of nodes. -/
def shortName : MessageCategory → String
  | .report => "Rm"
  | .embargo => "Em"
  | .caseState => "Cs"
  | .general => "Gm"

/-- The handler of a category. -/
def handlerOf : MessageCategory → Behavior
  | .report => processReportMessages
  | .embargo => processEmbargoMessages
  | .caseState => processCaseMessages
  | .general => processGeneralMessages

theorem handlerOf_eq (category : MessageCategory) :
    ∃ name, handlerOf category =
      processCategory category name (shortName category)
        (waysOf category) := by
  cases category <;> exact ⟨_, rfl⟩

theorem ensures_handlerOf {category : MessageCategory} {state : ActorState}
    {post : Status → ActorState → Prop}
    (handled : state.current = some message) :
    (handlerOf category).Ensures bound state post ↔
      if message.category = category then
        if message.type.isAck then post .success state
        else
          (Spec.fallback ("HandleAckable" ++ shortName category ++ "Message")
            (waysOf category)).Ensures bound state (replying message post)
      else post .failure state := by
  rcases handlerOf_eq category with ⟨name, shape⟩
  rw [shape]
  exact ensures_processCategory handled

/-- One handler after the other, and the one of its category handles the message;
it never fails, so that no other one comes after it. -/
theorem ensures_handlers {name : String} {categories : List MessageCategory}
    {state : ActorState} {post : Status → ActorState → Prop}
    (handled : state.current = some message)
    (among : message.category ∈ categories) :
    (Spec.fallback name (categories.map handlerOf)).Ensures bound state post ↔
      if message.type.isAck then post .success state
      else
        (Spec.fallback
          ("HandleAckable" ++ shortName message.category ++ "Message")
          (waysOf message.category)).Ensures bound state
          (replying message post) := by
  induction categories with
  | nil => cases among
  | cons category categories ih =>
    rw [List.map_cons, Spec.ensures_fallback_cons, ensures_handlerOf handled]
    by_cases concerned : message.category = category
    case neg =>
      rw [if_neg concerned, if_pos rfl]
      exact ih ((List.mem_cons.mp among).resolve_left concerned)
    case pos =>
      subst concerned
      rw [if_pos rfl]
      by_cases ack : message.type.isAck = true
      · simp [ack]
      · rw [if_neg ack, if_neg ack]
        apply Tree.ensures_congr
        intro status middle
        cases status <;> simp [replying]

/-- Handle a message, whatever its category is. -/
def handleMessage : Behavior :=
  .fallback "HandleMessage" (MessageCategory.all.map handlerOf)

/-- An acknowledgement is passed over, and every other message is handled in the
ways of its category and answered. -/
theorem ensures_handleMessage {state : ActorState}
    {post : Status → ActorState → Prop}
    (handled : state.current = some message) :
    handleMessage.Ensures bound state post ↔
      if message.type.isAck then post .success state
      else
        (Spec.fallback
          ("HandleAckable" ++ shortName message.category ++ "Message")
          (waysOf message.category)).Ensures bound state
          (replying message post) := by
  apply ensures_handlers handled
  cases message.category <;> decide

/-! ### What the ways are capable of -/

/-- The ways to handle a message keep to the handling, and an error is handled in
one of them. -/
structure Capable (bound : Nat) (pending : Bool) (message : Message)
    (ways : List Behavior) : Prop where
  each : ∀ way ∈ ways, (handling pending message).Covers bound way
  accepts : message.type.isError = true →
    ∃ way ∈ ways, ∀ state, (handling pending message).ready state →
      way.Ensures bound state fun status _ => status ≠ .failure

theorem Capable.fallback {name : String} {ways : List Behavior}
    {state : ActorState}
    (capable : Capable bound pending message ways)
    (ready : (handling pending message).ready state) :
    (Spec.fallback name ways).Ensures bound state fun status after =>
      (status = .failure → message.type.isError = false) ∧
        status.Settled pending ∧
        (handling pending message).Path state after := by
  by_cases error : message.type.isError = true
  · rcases capable.accepts error with ⟨way, member, never⟩
    apply (Covers.fallback_accepts capable.each member never ready).mono
    rintro status after ⟨accepted, settled, path⟩
    exact ⟨fun failed => (accepted failed).elim, settled, path⟩
  · apply (Covers.fallback capable.each state ready).mono
    rintro status after ⟨settled, path⟩
    exact ⟨fun _ => by simpa using error, settled, path⟩

/-- An error is handled where there is a follow-up for the errors of its
category. -/
theorem followUp_among {ways : List Behavior} (name : String)
    (type : MessageType)
    (among : handle name type followUpOnError ∈ ways)
    (concerned : message.category.error = type)
    (error : message.type.isError = true) :
    ∃ way ∈ ways, ∀ state, (handling pending message).ready state →
      way.Ensures bound state fun status _ => status ≠ .failure := by
  have same : message.type = type :=
    (MessageType.isError_iff.mp error).trans concerned
  refine ⟨_, among, ?_⟩
  intro state ready
  exact followUp_accepts ready same (same ▸ error)

/-- All four categories of message are handled by ways that are capable of it. -/
theorem capable_waysOf {category : MessageCategory}
    (concerned : message.category = category) :
    Capable bound pending message (waysOf category) := by
  have asks := congrArg MessageCategory.error concerned
  cases category with
  | report =>
    refine ⟨?_, followUp_among "HandleRe" .reportError (by simp [waysOf]) asks⟩
    simp only [waysOf, List.forall_mem_cons, List.not_mem_nil, false_imp_iff,
      implies_true, and_true]
    exact ⟨covers_handleSubmission, covers_followUp rfl, covers_condition _ _⟩
  | embargo =>
    refine ⟨?_, followUp_among "HandleEe" .embargoError (by simp [waysOf])
      asks⟩
    simp only [waysOf, List.forall_mem_cons, List.not_mem_nil, false_imp_iff,
      implies_true, and_true]
    exact ⟨covers_followUp rfl, Hears.handling hears_termination,
      Hears.handling hears_rejection, Hears.handling hears_handleWhileQuiet,
      covers_avoidNonViable⟩
  | caseState =>
    refine ⟨?_, followUp_among "HandleCe" .caseError (by simp [waysOf]) asks⟩
    simp only [waysOf, List.forall_mem_cons, List.not_mem_nil, false_imp_iff,
      implies_true, and_true]
    exact ⟨covers_handlePublicNews, covers_condition _ _,
      covers_condition _ _, covers_condition _ _, covers_followUp rfl⟩
  | general =>
    refine ⟨?_, followUp_among "HandleGe" .generalError (by simp [waysOf])
      asks⟩
    simp only [waysOf, List.forall_mem_cons, List.not_mem_nil, false_imp_iff,
      implies_true, and_true]
    exact ⟨covers_condition _ _, covers_followUp rfl⟩

/-- So every message is handled in the end, or a decision is pending. -/
theorem handleMessage_handled {state : ActorState}
    (ready : (handling pending message).ready state) :
    handleMessage.Ensures bound state (Handled pending message state) := by
  rw [ensures_handleMessage ready.1]
  by_cases ack : message.type.isAck = true
  · rw [if_pos ack]
    exact .acknowledgement ack
  · have noAck : message.type.isAck = false := by simpa using ack
    rw [if_neg ack]
    apply ((capable_waysOf rfl).fallback ready).mono
    rintro status middle ⟨refusable, settled, path⟩
    cases status with
    | success => exact .answered noAck path (.inl rfl)
    | failure => exact .answered noAck path (.inr ⟨rfl, refusable rfl⟩)
    | running => exact .interrupted noAck (settled rfl) path

/-! ## Taking messages up -/

/-- The state in which the oldest message is handled. -/
def takeUp (message : Message) (rest : List Message) (state : ActorState) :
    ActorState :=
  { state with
    current := some message
    inbox := rest
    received := state.received ++ [message.type] }

/-- The oldest message is taken up, handled and put away, unless it stays in hand
because of a pending decision. -/
theorem ensures_processNextMessage {state : ActorState} {rest : List Message}
    {post : Status → ActorState → Prop}
    (free : state.current = none)
    (waiting : state.inbox = message :: rest) :
    processNextMessage.Ensures bound state post ↔
      handleMessage.Ensures bound (takeUp message rest state)
        fun status middle =>
          post status
            (if status = .success then middle.dropMessage else middle) := by
  have popped : state.popMessage =
      (.success, { state with current := some message, inbox := rest }) := by
    simp [ActorState.popMessage, free, waiting]
  have putAway : ∀ (status : Status) (middle : ActorState),
      (if status = .success then
        (Spec.sequence "ProcessNextMessage"
          [Behavior.dropMessage]).Ensures bound middle post
      else post status middle) ↔
        post status
          (if status = .success then middle.dropMessage else middle) := by
    intro status middle
    by_cases succeeded : status = .success
    · simp [succeeded, Behavior.dropMessage]
    · simp [succeeded]
  rw [processNextMessage, Spec.ensures_sequence_cons, ensures_inboxNotEmpty,
    waiting, if_pos (by rfl), Spec.ensures_sequence_cons, Behavior.popMessage,
    Spec.ensures_action, popped, if_pos rfl, Spec.ensures_sequence_cons,
    Behavior.noteMessage, Spec.ensures_effect, if_pos rfl,
    Spec.ensures_sequence_cons]
  simp only [putAway]
  rfl

/-! ## The loop -/

/-- When the report is closed or no mail waits, nothing happens any more. -/
theorem ensures_receive_rest {state : ActorState}
    {post : Status → ActorState → Prop}
    (rests : state.report = .closed ∨ state.inbox = []) :
    receiveNextMessage.Ensures bound state post ↔ post .failure state := by
  rw [receiveNextMessage, Spec.ensures_sequence_cons, ensures_reportNotIn]
  by_cases closed : state.report = .closed
  · simp [closed, Status.ofBool]
  · simp [closed, rests.resolve_left closed, Status.ofBool]

/-- While the report is open and mail waits, a turn processes a message, and what
is left in hand by a failure goes back to the inbox. -/
theorem ensures_receive_waiting {state : ActorState}
    {post : Status → ActorState → Prop}
    (opened : state.report ≠ .closed)
    (waiting : state.inbox ≠ []) :
    receiveNextMessage.Ensures bound state post ↔
      processNextMessage.Ensures bound state fun status after =>
        if status = .failure then post .failure after.pushMessage
        else post status after := by
  have some : (!state.inbox.isEmpty) = true := by simpa using waiting
  rw [receiveNextMessage, Spec.ensures_sequence_cons, ensures_reportNotIn,
    decide_eq_true opened, if_pos (by rfl), Spec.ensures_sequence_cons,
    ensures_inboxNotEmpty, some, if_pos (by rfl),
    Spec.ensures_sequence_singleton, Spec.ensures_fallback_cons]
  apply Tree.ensures_congr
  intro status after
  cases status <;> simp [Behavior.pushMessage]

/-- A turn of the loop takes the oldest message up and handles it. -/
theorem ensures_receive_taken {state : ActorState} {rest : List Message}
    {post : Status → ActorState → Prop}
    (opened : state.report ≠ .closed)
    (free : state.current = none)
    (waiting : state.inbox = message :: rest) :
    receiveNextMessage.Ensures bound state post ↔
      handleMessage.Ensures bound (takeUp message rest state)
        fun status middle =>
          match status with
          | .success => post .success middle.dropMessage
          | .failure => post .failure middle.pushMessage
          | .running => post .running middle := by
  rw [ensures_receive_waiting opened (by simp [waiting]),
    ensures_processNextMessage free waiting]
  apply Tree.ensures_congr
  intro status middle
  cases status <;> simp

/-- What one turn of the loop over the inbox does. -/
inductive Turn (pending : Bool) (state : ActorState) :
    Status → ActorState → Prop
  | closed (shut : state.report = .closed) : Turn pending state .failure state
  | idle (nothing : state.inbox = []) : Turn pending state .failure state
  /-- A message that was left in hand goes back to the inbox. -/
  | blocked {message : Message}
      (waiting : state.inbox ≠ [])
      (handled : state.current = some message) :
    Turn pending state .failure
      { state with current := none, inbox := message :: state.inbox }
  | taken {message : Message} {rest : List Message} {middle : ActorState}
      (opened : state.report ≠ .closed)
      (free : state.current = none)
      (waiting : state.inbox = message :: rest)
      (ends : Handled pending message (takeUp message rest state) .success
        middle) :
    Turn pending state .success middle.dropMessage
  | interrupted {message : Message} {rest : List Message}
      {after : ActorState}
      (opened : state.report ≠ .closed)
      (free : state.current = none)
      (waiting : state.inbox = message :: rest)
      (ends : Handled pending message (takeUp message rest state) .running
        after) :
    Turn pending state .running after

theorem ensures_receiveNextMessage {state : ActorState}
    (settles : state.arbiter.policy.Settles pending) :
    receiveNextMessage.Ensures bound state (Turn pending state) := by
  by_cases shut : state.report = .closed
  · rw [ensures_receive_rest (.inl shut)]
    exact .closed shut
  cases waiting : state.inbox with
  | nil =>
    rw [ensures_receive_rest (.inr waiting)]
    exact .idle waiting
  | cons message rest =>
    cases handled : state.current with
    | none =>
      have ready :
          (handling pending message).ready (takeUp message rest state) :=
        ⟨rfl, settles⟩
      rw [ensures_receive_taken shut handled waiting]
      apply (handleMessage_handled ready).mono
      intro status middle ends
      cases status with
      | success => exact .taken shut handled waiting ends
      | failure => cases ends
      | running => exact .interrupted shut handled waiting ends
    | some left =>
      have refused : state.popMessage = (.failure, state) := by
        simp [ActorState.popMessage, handled]
      have pushed : state.pushMessage =
          { state with current := none, inbox := left :: state.inbox } := by
        simp [ActorState.pushMessage, handled]
      rw [ensures_receive_waiting shut (by simp [waiting]),
        processNextMessage, Spec.ensures_sequence_cons,
        ensures_inboxNotEmpty, waiting, if_pos (by rfl),
        Spec.ensures_sequence_cons, Behavior.popMessage, Spec.ensures_action,
        refused, if_neg (by simp), if_pos rfl, pushed]
      exact .blocked (by simp [waiting]) handled

/-- Handling a message is a matter of deeds, the reply included. -/
theorem Handled.deeds {state after : ActorState} {status : Status}
    (ends : Handled pending message state status after)
    (ready : (handling pending message).ready state) :
    Deeds state after := by
  cases ends with
  | acknowledgement => exact .refl
  | @answered middle reply noAck path replies =>
    have handled := (Path.ready path ready).1
    apply (handling_deeds path).tail
    rcases replies with rfl | ⟨rfl, noError⟩
    · exact .acknowledge handled noAck
    · exact .complain handled noAck noError
  | interrupted _ _ path => exact handling_deeds path

/-- The message stays in hand while it is handled. -/
theorem Handled.ready {state after : ActorState} {status : Status}
    (ends : Handled pending message state status after)
    (ready : (handling pending message).ready state) :
    (handling pending message).ready after := by
  cases ends with
  | acknowledgement => exact ready
  | @answered middle reply _ path _ =>
    have readyStill : (handling pending message).ready middle :=
      Path.ready path ready
    exact readyStill
  | interrupted _ _ path => exact Path.ready path ready

/-- The mail that waits is left alone meanwhile. -/
theorem Handled.inbox {state after : ActorState} {status : Status}
    (ends : Handled pending message state status after) :
    after.inbox = state.inbox := by
  cases ends with
  | acknowledgement => rfl
  | answered _ path _ => exact (handling_aside path).inbox
  | interrupted _ _ path => exact (handling_aside path).inbox

/-- So is the policy by which decisions are made. -/
theorem Handled.policy {state after : ActorState} {status : Status}
    (ends : Handled pending message state status after) :
    after.arbiter.policy = state.arbiter.policy := by
  cases ends with
  | acknowledgement => rfl
  | answered _ path _ => exact (handling_aside path).policy
  | interrupted _ _ path => exact (handling_aside path).policy

/-- Every turn of the loop is a matter of deeds. -/
theorem Turn.deeds {state after : ActorState} {status : Status}
    (turn : Turn true state status after) :
    Deeds state after := by
  cases turn with
  | closed | idle => exact .refl
  | blocked _ handled => exact .single (.putBack handled)
  | @taken message rest middle _ free waiting ends =>
    have ready : (handling true message).ready (takeUp message rest state) :=
      ⟨rfl, Policy.settles_anyhow _⟩
    have finishes : Deed middle middle.dropMessage :=
      .finish (ends.ready ready).1
    exact .head (.takeUp free waiting) ((ends.deeds ready).tail finishes)
  | @interrupted message rest middle _ free waiting ends =>
    refine .head (.takeUp free waiting) ?_
    exact ends.deeds ⟨rfl, Policy.settles_anyhow _⟩

/-- The loop makes an end when its bound is larger than the inbox. -/
theorem ensures_receiveMessages {state : ActorState}
    (small : state.inbox.length < bound) :
    receiveMessages.Ensures bound state fun _ after => Deeds state after := by
  refine Spec.ensures_untilFailure (Deeds state)
    (fun before => before.inbox.length) ?_ .refl small
  intro before deeds
  apply (ensures_receiveNextMessage (Policy.settles_anyhow _)).mono
  intro status after turn
  have further : Deeds state after := deeds.trans turn.deeds
  cases status with
  | failure | running => exact further
  | success =>
    refine ⟨further, ?_⟩
    cases turn with
    | @taken message rest middle _ _ waiting ends =>
      have kept : middle.dropMessage.inbox = rest := ends.inbox
      rw [kept, waiting, List.length_cons]
      omega

end Behavior

end Disclosure
