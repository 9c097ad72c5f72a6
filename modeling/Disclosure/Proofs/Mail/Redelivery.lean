import Disclosure.Proofs.Mail.Heeding
import Disclosure.Proofs.Mail.Replies

/-!
# Redelivery is harmless

A tick of the loop over the inbox heeds the messages one after the other, so that
an actor ends where its mail moves it: its position is a fold over the types of
the messages.  A message that is delivered twice in a row is heeded twice, which
is the same as once, and the rest of the mail is heeded from the same position.
-/

namespace Disclosure

namespace Behavior

open ActorState Course

variable {bound : Nat} {message : Message} {state : ActorState}
  {position : Position} {name : String}

/-- What was done about a message has moved the actor as the message does. -/
def Heeds (message : Message) (before : ActorState) (_ : Status)
    (after : ActorState) : Prop :=
  after.position = before.position.heed message.type

/-! ## Staying where one is -/

/-- The actor stays where it is, with a message in hand. -/
abbrev staying (message : Message) (position : Position) : Course ActorState :=
  .keeping fun state =>
    state.position = position ∧ state.current = some message

theorem staying_followUp :
    (staying message position).Covers bound followUpOnError :=
  .orElse (covers_decision fun _ _ => ⟨trivial, id⟩)
    (.orElse (covers_effect fun _ _ => .single id) .nothing)

/-- A handler of another type has nothing to do. -/
theorem staying_other {other : String} {type : MessageType}
    {behavior : Behavior}
    (differs : message.type ≠ type) :
    (staying message position).Covers bound (handle other type behavior) :=
  covers_handle (fun _ ready => ready.2) fun same => (differs same).elim

/-- Asking back after an error does not move anything. -/
theorem staying_error {other : String} {type : MessageType} :
    (staying message position).Covers bound
      (handle other type followUpOnError) :=
  covers_handle (fun _ ready => ready.2) fun _ => staying_followUp

theorem staying_noNews (other : message.type ∉ publicNews) :
    (staying message position).Covers bound handlePublicNews := by
  intro state ready
  rw [handlePublicNews, Spec.ensures_sequence_cons,
    ensures_recognizeNews ready.2, if_neg other, if_neg (by decide)]
  exact ⟨trivial, .refl⟩

/-- Who stays has heeded a message that calls for nothing. -/
theorem heeds_of_stays {behavior : Behavior}
    (handled : state.current = some message)
    (idle : state.position.heed message.type = state.position)
    (stays : (staying message state.position).Covers bound behavior) :
    behavior.Ensures bound state (Heeds message state) := by
  apply (covers_keeping_iff.mp stays state ⟨rfl, handled⟩).mono
  rintro _ after ⟨same, _⟩
  rw [Heeds, idle]
  exact same

/-! ## Reports, the case and general talk -/

theorem heeds_report
    (handled : state.current = some message)
    (category : message.type.category = .report) :
    (Spec.fallback name (waysOf .report)).Ensures bound state
      (Heeds message state) := by
  by_cases submission : message.type = .reportSubmission
  · rw [waysOf, Spec.ensures_fallback_cons, handleSubmission,
      ensures_handle handled, if_pos submission, Spec.ensures_sequence_cons,
      ensures_receive, if_pos rfl, Spec.ensures_sequence_singleton,
      ensures_learn, if_neg (by decide)]
    rw [Heeds, submission]
    exact position_takeSubmission state
  · apply heeds_of_stays handled
    · simp only [Position.heed, category, if_neg submission]
    · exact .orElse (staying_other submission) (.orElse staying_error
        (.orElse (covers_condition _ _) .nothing))

theorem heeds_caseState
    (handled : state.current = some message)
    (category : message.type.category = .caseState)
    (exits : state.arbiter.policy.Exits) :
    (Spec.fallback name (waysOf .caseState)).Ensures bound state
      (Heeds message state) := by
  by_cases news : message.type ∈ publicNews
  · have exitsThen : (state.hearNews message.type).arbiter.policy.Exits := by
      rw [(aside_hearNews state message.type).policy]
      exact exits
    have notQuiet := hearNews_not_quiet state news
    rw [waysOf, Spec.ensures_fallback_cons, handlePublicNews,
      Spec.ensures_sequence_cons, ensures_recognizeNews handled, if_pos news,
      if_pos rfl, Spec.ensures_sequence_singleton]
    apply (ensures_terminateEmbargo notQuiet).mono
    rintro status after ⟨ends, answer⟩
    have taken : status = .success := by
      rcases answer with succeeded | asked
      · exact succeeded
      · exact asked.trans (exitsThen _ _)
    rw [if_neg (by rw [taken]; decide), Heeds, ends.position exitsThen,
      position_hearNews]
    simp only [Position.heed, category, if_pos news]
  · apply heeds_of_stays handled
    · simp only [Position.heed, category, if_neg news]
    · exact .orElse (staying_noNews news) (.orElse (covers_condition _ _)
        (.orElse (covers_condition _ _) (.orElse (covers_condition _ _)
          (.orElse staying_error .nothing))))

theorem heeds_general
    (handled : state.current = some message)
    (category : message.type.category = .general) :
    (Spec.fallback name (waysOf .general)).Ensures bound state
      (Heeds message state) := by
  apply heeds_of_stays handled
  · simp only [Position.heed, category]
  · exact .orElse (covers_condition _ _) (.orElse staying_error .nothing)

/-! ## Embargoes -/

/-- What calls for a move is understood as that move. -/
theorem means_of_following {type : MessageType} {embargo : EmbargoState}
    {move : EmbargoMove}
    (follows : EmbargoMove.following type embargo = some move) :
    Means type embargo move.target := by
  revert follows
  cases type <;> cases embargo <;> simp only [EmbargoMove.following] <;>
    rintro ⟨⟩
  case embargoProposal.noEmbargo => exact .proposal (by decide)
  case embargoAccepted.proposed => exact .acceptance (by decide)
  case embargoRejected.proposed => exact .rejection (by decide)
  case revisionProposal.active => exact .revision (by decide)
  case revisionRejected.revise | revisionAccepted.revise =>
    exact .response (by decide) (by decide)
  case embargoTerminated.active | embargoTerminated.revise =>
    exact .termination (by decide)

/-- Whoever hears what calls for no move stays. -/
theorem staying_hears {behavior : Behavior}
    (idle : EmbargoMove.following message.type position.embargo.1 = none)
    (hears : (hearing true).Covers bound behavior) :
    (staying message position).Covers bound behavior := by
  refine hears.onCourse ?_ ?_ ?_ fun _ _ => trivial
  · exact fun state _ => Policy.settles_anyhow _
  · intro before after muses stays
    rcases muses.exists_eq with ⟨stream, arbiter, rfl⟩
    exact stays
  · rintro before after _ ⟨about, move, handled, follows, _⟩ ⟨stands, held⟩
    have same : about = message := Option.some.inj (handled.symm.trans held)
    have embargo : before.embargo = position.embargo.1 :=
      congrArg (fun position => position.embargo.1) stands
    rw [same, embargo, idle] at follows
    cases follows

/-- In a quiet case no embargo is given up. -/
theorem staying_avoidNonViable {other : String}
    (quiet : position.caseState.1.isQuiet = true) :
    (staying message position).Covers bound
      (Spec.sequence other [caseNotQuiet, terminateEmbargo]) := by
  refine .guarded (fun _ _ => ensures_caseNotQuiet) ?_
  rintro state ⟨stands, _⟩ loud
  have quietHere : state.caseState.isQuiet = true := by
    rw [← quiet, ← stands]
    rfl
  simp [quietHere] at loud

/-- A quiet case goes on as before after what calls for no move. -/
theorem heeds_idly
    (handled : state.current = some message)
    (quiet : state.caseState.isQuiet = true)
    (noError : message.type ≠ .embargoError)
    (idle : EmbargoMove.following message.type state.embargo = none)
    (same : state.position.heed message.type = state.position) :
    (Spec.fallback name (waysOf .embargo)).Ensures bound state
      (Heeds message state) := by
  apply heeds_of_stays handled same
  exact .orElse (staying_other noError)
    (.orElse (staying_hears idle hears_termination)
      (.orElse (staying_hears idle hears_rejection)
        (.orElse (staying_hears idle hears_handleWhileQuiet)
          (.orElse (staying_avoidNonViable quiet) .nothing))))

/-- The embargo of the actor is ended. -/
def EndsTalks (before : ActorState) (_ : Status) (after : ActorState) : Prop :=
  after.position = before.position.endEmbargo

/-- A handler that ends the embargo in some states, and is of no use in the
others, may come first. -/
theorem endsTalks_orElse {other : String} {type : MessageType}
    {behavior : Behavior} {rest : List Behavior} {states : List EmbargoState}
    {target : EmbargoState}
    (handled : state.current = some message)
    (handles : ∀ post : Status → ActorState → Prop,
      behavior.Ensures bound state post ↔
        if state.embargo ∈ states then
          post .success (state.moveEmbargo target)
        else post .failure state)
    (ends : state.embargo ∈ states →
      state.position.toEmbargo target = state.position.endEmbargo)
    (further : (Spec.fallback name rest).Ensures bound state
      (EndsTalks state)) :
    (Spec.fallback name (handle other type behavior :: rest)).Ensures bound
      state (EndsTalks state) := by
  rw [Spec.ensures_fallback_cons, ensures_handle handled]
  by_cases concerned : message.type = type
  case neg =>
    rw [if_neg concerned, if_pos rfl]
    exact further
  case pos =>
    rw [if_pos concerned, handles]
    by_cases understood : state.embargo ∈ states
    · rw [if_pos understood, if_neg (by decide), EndsTalks,
        position_moveEmbargo]
      exact ends understood
    · rw [if_neg understood, if_pos rfl]
      exact further

/-- Where something is public, there is nothing left but to end the embargo. -/
theorem endsTalks_nonViable {other : String}
    (loud : state.caseState.isQuiet = false)
    (exits : state.arbiter.policy.Exits) :
    (Spec.fallback name
      [handleWhileQuiet,
       .sequence other [caseNotQuiet, terminateEmbargo]]).Ensures bound state
        (EndsTalks state) := by
  rw [Spec.ensures_fallback_cons, handleWhileQuiet, Spec.ensures_sequence_cons,
    ensures_caseQuiet, loud, if_neg (by decide), if_pos (by rfl),
    Spec.ensures_fallback_singleton, Spec.ensures_sequence_cons,
    ensures_caseNotQuiet, loud, if_pos (by rfl),
    Spec.ensures_sequence_singleton]
  apply (ensures_terminateEmbargo loud).mono
  rintro status after ⟨ends, _⟩
  exact ends.position exits

/-- Whatever is said about an embargo where something is public ends it. -/
theorem endsTalks_loudly
    (handled : state.current = some message)
    (noError : message.type ≠ .embargoError)
    (loud : state.caseState.isQuiet = false)
    (exits : state.arbiter.policy.Exits) :
    (Spec.fallback name (waysOf .embargo)).Ensures bound state
      (EndsTalks state) := by
  rw [waysOf, ensures_passOver handled noError]
  apply endsTalks_orElse handled fun _ => ensures_recognizeExit
  · exact fun stands => Position.toEmbargo_exited (by exact stands)
  apply endsTalks_orElse handled fun _ =>
    ensures_ensureEmbargo .noEmbargo .proposed rfl (by decide)
  · exact fun stands => Position.toEmbargo_noEmbargo (by exact stands)
  exact endsTalks_nonViable loud exits

/-- Asking back after an error is all that is done about it. -/
theorem heeds_embargoError
    (handled : state.current = some message)
    (error : message.type = .embargoError) :
    (Spec.fallback name (waysOf .embargo)).Ensures bound state
      (Heeds message state) := by
  have ready : (handling true message).ready state :=
    ⟨handled, Policy.settles_anyhow _⟩
  have stays : (staying message state.position).Covers bound
      (handle "HandleEe" .embargoError followUpOnError) := staying_error
  rw [waysOf, Spec.ensures_fallback_cons]
  apply ((covers_keeping_iff.mp stays state ⟨rfl, handled⟩).and
    (followUp_accepts ready error rfl)).mono
  rintro status after ⟨⟨same, _⟩, accepted⟩
  rw [if_neg accepted, Heeds, error]
  exact same

theorem heeds_embargo
    (handled : state.current = some message)
    (category : message.type.category = .embargo)
    (noAck : ¬ message.type.isAck = true)
    (exits : state.arbiter.policy.Exits) :
    (Spec.fallback name (waysOf .embargo)).Ensures bound state
      (Heeds message state) := by
  by_cases error : message.type = .embargoError
  · exact heeds_embargoError handled error
  have noReply : ¬ message.type.isReply = true := by
    rw [MessageType.isReply, Bool.or_eq_true, MessageType.isError_iff, category]
    rintro (ack | impossible)
    · exact noAck ack
    · exact error impossible
  have discusses : state.position.heed message.type =
      state.position.discuss message.type := by
    simp only [Position.heed, category, if_neg noReply]
  by_cases quiet : state.caseState.isQuiet = true
  case neg =>
    have loud : state.caseState.isQuiet = false := by simpa using quiet
    apply (endsTalks_loudly handled error loud exits).mono
    intro status after ends
    rw [Heeds, discusses, Position.discuss, if_neg (by exact quiet)]
    exact ends
  case pos =>
    cases follows : EmbargoMove.following message.type state.embargo with
    | some move =>
      have followsThere : EmbargoMove.following message.type
          state.position.embargo.1 = some move := follows
      rw [ensures_understood handled quiet (means_of_following follows), Heeds,
        discusses, Position.discuss, if_pos (by exact quiet),
        position_moveEmbargo, followsThere]
    | none =>
      have followsThere : EmbargoMove.following message.type
          state.position.embargo.1 = none := follows
      apply heeds_idly handled quiet error follows
      rw [discusses, Position.discuss, if_pos (by exact quiet), followsThere]

/-! ## All mail -/

theorem heeds_handleMessage
    (handled : state.current = some message)
    (exits : state.arbiter.policy.Exits) :
    handleMessage.Ensures bound state (Heeds message state) := by
  rw [ensures_handleMessage handled]
  by_cases ack : message.type.isAck = true
  · rw [if_pos ack]
    exact (Position.heed_of_isAck ack _).symm
  rw [if_neg ack]
  have heeds : (Spec.fallback
      ("HandleAckable" ++ shortName message.category ++ "Message")
      (waysOf message.category)).Ensures bound state (Heeds message state) := by
    cases category : message.category with
    | report => exact heeds_report handled category
    | embargo => exact heeds_embargo handled category ack exits
    | caseState => exact heeds_caseState handled category exits
    | general => exact heeds_general handled category
  apply heeds.mono
  intro status middle moved
  cases status with
  | success | failure | running => exact moved

/-- After some messages the actor is where each of them has moved it, one after
the other. -/
theorem Answering.heeds {messages : List Message} {after : ActorState}
    (answering : Answering bound messages state after)
    (exits : state.arbiter.policy.Exits) :
    after.position = state.position.heedAll messages := by
  induction answering with
  | done => rfl
  | skip ack _ ih =>
    rw [Position.heedAll_cons, Position.heed_of_isAck ack]
    exact ih exits
  | @answer message rest state middle after _ handles _ _ ih =>
    have ready : (handling true message).ready (hold message state) :=
      ⟨rfl, Policy.settles_anyhow _⟩
    have heeds : handleMessage.Ensures bound (hold message state)
        (Heeds message (hold message state)) :=
      heeds_handleMessage rfl exits
    have ends : handleMessage.Ensures bound (hold message state)
        (Handled true message (hold message state)) :=
      handleMessage_handled ready
    rw [Tree.ensures_of_run handles] at heeds ends
    have exitsThen : middle.arbiter.policy.Exits := by
      rw [ends.policy]
      exact exits
    have moved : middle.dropMessage.position =
        state.position.heed message.type := heeds
    rw [Position.heedAll_cons, ← moved]
    exact ih exitsThen

end Behavior

open Behavior

/-- What counts of two actors is the same: the report, the embargo, the case, and
how they came about. -/
theorem ActorState.eq_of_position {state other : ActorState}
    (same : state.position = other.position) :
    state.report = other.report ∧ state.embargo = other.embargo ∧
      state.caseState = other.caseState ∧
      state.reportHistory = other.reportHistory ∧
      state.embargoHistory = other.embargoHistory ∧
      state.caseHistory = other.caseHistory := by
  injection same with _ report embargo caseState
  injection report with report reportHistory
  injection embargo with embargo embargoHistory
  injection caseState with caseState caseHistory
  exact ⟨report, embargo, caseState, reportHistory, embargoHistory, caseHistory⟩

/-- A tick of the loop over the inbox goes through the mail and leaves the actor
where its mail moves it. -/
theorem BehaviorTree.tick_position {tree : BehaviorTree Unit ActorState}
    {bound : Nat} (inbox : List Message)
    (receives : tree.root.Hosts receiveMessages)
    (opened : tree.board.report ≠ .closed)
    (free : tree.board.current = none)
    (settles : tree.board.arbiter.policy.Settles false)
    (exits : tree.board.arbiter.policy.Exits)
    (small : inbox.length < bound) :
    ∃ last, (tree.withInbox inbox).tick bound = .ok (.success, last) ∧
      last.board.position = tree.board.position.heedAll inbox := by
  obtain ⟨after, answering, _⟩ :=
    exists_answering bound inbox tree.board opened free settles
  obtain ⟨last, ticked, ends⟩ := answering.tick receives opened free small
  refine ⟨last, ticked, ?_⟩
  rw [ends, ← answering.heeds exits]
  rfl

/--
Redelivery is harmless: when no decision is left pending and the decision to exit
an embargo is taken whenever it is asked, a tick of the loop over the inbox leaves
the actor where its mail moves it, and it ends with the same report, embargo and
case, and with the same histories of all three, whether a message came once or
twice in a row, whatever came before and after it.
-/
theorem redelivery_is_harmless
    {tree : BehaviorTree Unit ActorState} {bound : Nat}
    (earlier later : List Message) (message : Message)
    (receives : tree.root.Hosts receiveMessages)
    (opened : tree.board.report ≠ .closed)
    (free : tree.board.current = none)
    (settles : tree.board.arbiter.policy.Settles false)
    (exits : tree.board.arbiter.policy.Exits)
    (small : (earlier ++ message :: message :: later).length < bound) :
    ∃ once twice,
      (tree.withInbox (earlier ++ message :: later)).tick bound =
        .ok (.success, once) ∧
      (tree.withInbox (earlier ++ message :: message :: later)).tick bound =
        .ok (.success, twice) ∧
      once.board.position =
        tree.board.position.heedAll (earlier ++ message :: later) ∧
      once.board.report = twice.board.report ∧
      once.board.embargo = twice.board.embargo ∧
      once.board.caseState = twice.board.caseState ∧
      once.board.reportHistory = twice.board.reportHistory ∧
      once.board.embargoHistory = twice.board.embargoHistory ∧
      once.board.caseHistory = twice.board.caseHistory := by
  have smaller : (earlier ++ message :: later).length < bound := by
    simp only [List.length_append, List.length_cons] at small ⊢
    omega
  obtain ⟨once, ticked, ends⟩ := BehaviorTree.tick_position
    (earlier ++ message :: later) receives opened free settles exits smaller
  obtain ⟨twice, tickedToo, endsToo⟩ := BehaviorTree.tick_position
    (earlier ++ message :: message :: later) receives opened free settles exits
    small
  have same : once.board.position = twice.board.position := by
    rw [ends, endsToo, Position.heedAll_redelivered]
  exact ⟨once, twice, ticked, tickedToo, ends, ActorState.eq_of_position same⟩

/-- The proposal of an embargo comes twice before an exploit is published. -/
theorem redelivery_is_harmless_of_busyVendor :
    ∃ tree : BehaviorTree Unit ActorState,
      tree.root.Hosts receiveMessages ∧ tree.board = busyVendor ∧
      ∃ once twice,
        (tree.withInbox
          [.broadcast .reportSubmission "finder",
           .broadcast .embargoProposal "finder",
           .broadcast .exploitPublished "finder"]).tick 5 =
          .ok (.success, once) ∧
        (tree.withInbox
          [.broadcast .reportSubmission "finder",
           .broadcast .embargoProposal "finder",
           .broadcast .embargoProposal "finder",
           .broadcast .exploitPublished "finder"]).tick 5 =
          .ok (.success, twice) ∧
        once.board.position = tree.board.position.heedAll
          [.broadcast .reportSubmission "finder",
           .broadcast .embargoProposal "finder",
           .broadcast .exploitPublished "finder"] ∧
        once.board.report = twice.board.report ∧
        once.board.embargo = twice.board.embargo ∧
        once.board.caseState = twice.board.caseState ∧
        once.board.reportHistory = twice.board.reportHistory ∧
        once.board.embargoHistory = twice.board.embargoHistory ∧
        once.board.caseHistory = twice.board.caseHistory := by
  obtain ⟨tree, receives, vendor⟩ :=
    BehaviorTree.exists_hosting proper_receiveMessages busyVendor
  have settles : tree.board.arbiter.policy.Settles false := by
    rw [vendor]
    intro number decision stream pending
    cases pending
  have exits : tree.board.arbiter.policy.Exits := by
    rw [vendor]
    intro number stream
    rfl
  refine ⟨tree, receives, vendor, ?_⟩
  exact redelivery_is_harmless [.broadcast .reportSubmission "finder"]
    [.broadcast .exploitPublished "finder"]
    (.broadcast .embargoProposal "finder") receives (by rw [vendor]; decide)
    (by rw [vendor]; rfl) settles exits (by decide)

end Disclosure
