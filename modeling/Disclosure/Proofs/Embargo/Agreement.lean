import Disclosure.Proofs.Protocol.Answering

/-!
# Peers agree about the embargo

In a quiet case, two peers who are in the same embargo state are so again when
one of them has made a move and the other one has received its announcement, and
the other one acknowledges it.  There is one exception: the acceptance of a
revision.  It is announced like the acceptance of a proposal, which means nothing
while an embargo is being revised; so the other one answers with an error and
goes on revising.
-/

namespace Disclosure

namespace Behavior

open ActorState

variable {bound : Nat} {message : Message} {state : ActorState}
  {post : Status → ActorState → Prop}

/-! ## Following an announced move -/

/-- Being in a state, or getting there by the move that leads there. -/
theorem ensures_ensureEmbargo {name : String} (target start : EmbargoState)
    {move : EmbargoMove}
    (ends : move.target = target)
    (opens : start ∈ move.starts) :
    (ensureEmbargo name target start move).Ensures bound state post ↔
      if state.embargo ∈ [target, start] then
        post .success (state.moveEmbargo target)
      else post .failure state := by
  subst ends
  rw [ensureEmbargo, Spec.ensures_fallback_cons, ensures_embargoIn]
  by_cases there : state.embargo = move.target
  · have stays : state.moveEmbargo move.target = state := by
      rw [← there, moveEmbargo_self]
    simp [there, stays, Status.ofBool]
  · rw [decide_eq_false there, if_pos (by rfl),
      Spec.ensures_fallback_singleton, Spec.ensures_sequence_cons,
      ensures_embargoIn]
    by_cases begins : state.embargo = start
    · have opened : state.embargo = move.target ∨
          state.embargo ∈ move.starts := .inr (begins ▸ opens)
      rw [decide_eq_true begins, if_pos (by rfl),
        Spec.ensures_sequence_singleton, ensures_moveEmbargo, if_pos opened,
        if_pos (by simp [begins])]
    · simp [there, begins, Status.ofBool]

/-- An embargo that is over, or one in force, is over after its termination. -/
theorem ensures_recognizeExit {name recognize : String} :
    (Spec.fallback name
      [embargoIn .exited,
       .sequence recognize
        [embargoInForce, moveEmbargo .terminate]]).Ensures bound state post ↔
      if state.embargo ∈ [.exited, .active, .revise] then
        post .success (state.moveEmbargo .exited)
      else post .failure state := by
  rcases stands : state.embargo with _ | _ | _ | _ | _ <;>
    simp [stands, Status.ofBool, EmbargoMove.starts, EmbargoMove.target,
      ActorState.moveEmbargo]

/-- Both answers to a revision lead back to the embargo. -/
theorem ensures_handleRevisionResponse
    (handled : state.current = some message)
    (response : message.type ∈ [.revisionRejected, .revisionAccepted])
    (inForce : state.embargo ∈ [.active, .revise]) :
    handleRevisionResponse.Ensures bound state post ↔
      post .success (state.moveEmbargo .active) := by
  rw [handleRevisionResponse]
  rcases List.mem_pair.mp response with announced | announced <;>
    rcases List.mem_pair.mp inForce with stands | stands <;>
    simp [any_type handled, announced, stands, ensures_handle handled,
      EmbargoMove.target, EmbargoMove.starts, ActorState.moveEmbargo,
      Status.ofBool]

/-! ### One alternative after the other -/

section Alternatives

variable {name other : String} {type : MessageType} {behavior : Behavior}
  {ways rest : List Behavior} {after : ActorState}

/-- Handlers of other types are passed over. -/
theorem ensures_passOver
    (handled : state.current = some message)
    (differs : message.type ≠ type) :
    (Spec.fallback name (handle other type behavior :: rest)).Ensures bound
        state post ↔
      (Spec.fallback name rest).Ensures bound state post := by
  rw [Spec.ensures_fallback_cons, ensures_handle handled, if_neg differs,
    if_pos rfl]

/-- A message is handled by the handler of its type, if it can be. -/
theorem ensures_handledBy
    (handled : state.current = some message)
    (same : message.type = type)
    (succeeds : ∀ post : Status → ActorState → Prop,
      behavior.Ensures bound state post ↔ post .success after) :
    (Spec.fallback name (handle other type behavior :: rest)).Ensures bound
        state post ↔
      post .success after := by
  rw [Spec.ensures_fallback_cons, ensures_handle handled, if_pos same,
    succeeds, if_neg (by decide)]

/-- In a quiet case there is no more to the handlers for it. -/
theorem ensures_quietly (quiet : state.caseState.isQuiet = true) :
    (Spec.sequence name [caseQuiet, .fallback other ways]).Ensures bound state
        post ↔
      (Spec.fallback other ways).Ensures bound state post := by
  rw [Spec.ensures_sequence_cons, ensures_caseQuiet, quiet, if_pos (by rfl),
    Spec.ensures_sequence_singleton]

/-- What neither ends nor rejects anything is left to the handlers for a quiet
case. -/
theorem ensures_whileQuiet
    (handled : state.current = some message)
    (differs : message.type ∉
      [.embargoError, .embargoTerminated, .embargoRejected])
    (succeeds : ∀ post : Status → ActorState → Prop,
      handleWhileQuiet.Ensures bound state post ↔ post .success after) :
    (Spec.fallback name (waysOf .embargo)).Ensures bound state post ↔
      post .success after := by
  obtain ⟨noError, noEnd, noRejection⟩ :
      message.type ≠ .embargoError ∧ message.type ≠ .embargoTerminated ∧
        message.type ≠ .embargoRejected := by
    simpa using differs
  rw [waysOf, ensures_passOver handled noError, ensures_passOver handled noEnd,
    ensures_passOver handled noRejection, Spec.ensures_fallback_cons, succeeds,
    if_neg (by decide)]

end Alternatives

/-- What a message means for an embargo in a quiet case: where it leads from the
states in which it is understood. -/
inductive Means : MessageType → EmbargoState → EmbargoState → Prop
  | proposal {embargo : EmbargoState}
      (stands : embargo ∈ [.proposed, .noEmbargo]) :
    Means .embargoProposal embargo .proposed
  | rejection {embargo : EmbargoState}
      (stands : embargo ∈ [.noEmbargo, .proposed]) :
    Means .embargoRejected embargo .noEmbargo
  | acceptance {embargo : EmbargoState}
      (stands : embargo ∈ [.active, .proposed]) :
    Means .embargoAccepted embargo .active
  | revision {embargo : EmbargoState}
      (stands : embargo ∈ [.revise, .active]) :
    Means .revisionProposal embargo .revise
  | response {type : MessageType} {embargo : EmbargoState}
      (answers : type ∈ [.revisionRejected, .revisionAccepted])
      (stands : embargo ∈ [.active, .revise]) :
    Means type embargo .active
  | termination {embargo : EmbargoState}
      (stands : embargo ∈ [.exited, .active, .revise]) :
    Means .embargoTerminated embargo .exited

/-- What is understood is followed. -/
theorem ensures_understood {name : String} {target : EmbargoState}
    (handled : state.current = some message)
    (quiet : state.caseState.isQuiet = true)
    (means : Means message.type state.embargo target) :
    (Spec.fallback name (waysOf .embargo)).Ensures bound state post ↔
      post .success (state.moveEmbargo target) := by
  have passOver : ∀ {name other : String} {type : MessageType}
      {behavior : Behavior} {rest : List Behavior}
      {post : Status → ActorState → Prop}, message.type ≠ type →
      ((Spec.fallback name (handle other type behavior :: rest)).Ensures bound
          state post ↔
        (Spec.fallback name rest).Ensures bound state post) :=
    fun differs => ensures_passOver handled differs
  generalize announced : message.type = type at means
  generalize embargo : state.embargo = before at means
  cases means
  case termination stands =>
    rw [waysOf, passOver (by simp [announced]),
      ensures_handledBy handled announced fun _ => by
        rw [ensures_recognizeExit, embargo, if_pos stands]]
  case rejection stands =>
    rw [waysOf, passOver (by simp [announced]), passOver (by simp [announced]),
      ensures_handledBy handled announced fun _ => by
        rw [ensures_ensureEmbargo .noEmbargo .proposed rfl (by decide),
          embargo, if_pos stands]]
  case proposal stands =>
    apply ensures_whileQuiet handled (by simp [announced])
    intro _
    rw [handleWhileQuiet, ensures_quietly quiet]
    apply ensures_handledBy handled announced
    intro _
    rw [ensures_ensureEmbargo .proposed .noEmbargo rfl (by decide), embargo,
      if_pos stands]
  case acceptance stands =>
    apply ensures_whileQuiet handled (by simp [announced])
    intro _
    rw [handleWhileQuiet, ensures_quietly quiet, passOver (by simp [announced])]
    apply ensures_handledBy handled announced
    intro _
    rw [ensures_ensureEmbargo .active .proposed rfl (by decide), embargo,
      if_pos stands]
  case revision stands =>
    apply ensures_whileQuiet handled (by simp [announced])
    intro _
    rw [handleWhileQuiet, ensures_quietly quiet, passOver (by simp [announced]),
      passOver (by simp [announced])]
    apply ensures_handledBy handled announced
    intro _
    rw [ensures_ensureEmbargo .revise .active rfl (by decide), embargo,
      if_pos stands]
  case response answers stands =>
    have differs : ∀ other ∉ [MessageType.revisionRejected,
        MessageType.revisionAccepted], message.type ≠ other := by
      rintro other among rfl
      exact among (announced ▸ answers)
    have unrelated : message.type ∉
        [.embargoError, .embargoTerminated, .embargoRejected] := by
      simp [differs]
    apply ensures_whileQuiet handled unrelated
    intro _
    rw [handleWhileQuiet, ensures_quietly quiet,
      passOver (differs _ (by decide)), passOver (differs _ (by decide)),
      passOver (differs _ (by decide)), Spec.ensures_fallback_singleton]
    exact ensures_handleRevisionResponse handled (announced ▸ answers)
      (embargo ▸ stands)

/-- While an embargo is being revised, nobody understands an acceptance. -/
theorem ensures_misunderstood {name : String}
    (handled : state.current = some message)
    (quiet : state.caseState.isQuiet = true)
    (announced : message.type = .embargoAccepted)
    (revising : state.embargo = .revise) :
    (Spec.fallback name (waysOf .embargo)).Ensures bound state post ↔
      post .failure state := by
  rw [waysOf, ensures_passOver handled (by simp [announced]),
    ensures_passOver handled (by simp [announced]),
    ensures_passOver handled (by simp [announced])]
  simp [handleWhileQuiet, handleRevisionResponse, ensureEmbargo,
    ensures_handle handled, any_type handled, announced, quiet, revising,
    Status.ofBool]

/-! ## The move of one peer and the answer of the other -/

/-- The acceptance of a revision, which is announced like any acceptance. -/
def AcceptsRevision (move : EmbargoMove) (embargo : EmbargoState) : Prop :=
  move = .accept ∧ embargo = .revise

instance (move : EmbargoMove) (embargo : EmbargoState) :
    Decidable (AcceptsRevision move embargo) :=
  inferInstanceAs (Decidable (_ ∧ _))

/-- All moves but one are announced in a way that is understood. -/
theorem means_announcement {move : EmbargoMove} {embargo : EmbargoState}
    (starts : embargo ∈ move.starts)
    (usual : ¬ AcceptsRevision move embargo) :
    Means move.announcement embargo move.target := by
  have among : ∀ states : List EmbargoState, move.starts ⊆ states →
      embargo ∈ states := fun _ within => within starts
  cases move with
  | propose => exact .proposal (among _ (by decide))
  | reject => exact .rejection (among _ (by decide))
  | accept =>
    refine .acceptance (List.mem_pair.mpr (.inr ?_))
    rcases List.mem_pair.mp starts with proposed | revising
    · exact proposed
    · exact (usual ⟨rfl, revising⟩).elim
  | revise => exact .revision (among _ (by decide))
  | rejectRevision => exact .response (by decide) (among _ (by decide))
  | terminate => exact .termination (among _ (by decide))

/-- The answer of a peer to an announced move. -/
def answerTo (move : EmbargoMove) (state : ActorState) : ActorState :=
  if AcceptsRevision move state.embargo then state.broadcast .embargoError
  else (state.moveEmbargo move.target).broadcast .embargoAck

theorem run_handleMessage_announced {move : EmbargoMove}
    (handled : state.current = some message)
    (announced : message.type = move.announcement)
    (quiet : state.caseState.isQuiet = true)
    (starts : state.embargo ∈ move.starts) :
    handleMessage.run bound state = .ok (.success, answerTo move state) := by
  have category : message.category = .embargo := by
    rw [Message.category, announced]
    cases move <;> rfl
  have noAck : ¬ message.type.isAck = true := by
    rw [announced]
    cases move <;> decide
  have answers : handleMessage.Ensures bound state fun status after =>
      status = .success ∧ after = answerTo move state := by
    rw [ensures_handleMessage handled, if_neg noAck, category]
    by_cases unusual : AcceptsRevision move state.embargo
    · have accepted : message.type = .embargoAccepted := by
        rw [announced, unusual.1]
        rfl
      rw [ensures_misunderstood handled quiet accepted unusual.2, replying,
        answerTo, if_pos unusual, category]
      exact ⟨rfl, rfl⟩
    · have means : Means message.type state.embargo move.target :=
        announced ▸ means_announcement starts unusual
      rw [ensures_understood handled quiet means, replying, answerTo,
        if_neg unusual, category]
      exact ⟨rfl, rfl⟩
  rcases answers with ⟨_, _, ran, rfl, rfl⟩
  exact ran

theorem answerTo_report (move : EmbargoMove) (state : ActorState) :
    (answerTo move state).report = state.report := by
  rw [answerTo]
  split
  · rfl
  · rw [moveEmbargo_eq]
    rfl

/-- An announcement that waits alone is answered. -/
theorem answering_announced {move : EmbargoMove}
    (announced : message.type = move.announcement)
    (quiet : state.caseState.isQuiet = true)
    (starts : state.embargo ∈ move.starts)
    (opened : state.report ≠ .closed) :
    Answering bound [message] state
      (answerTo move (hold message state)).dropMessage := by
  have noAck : message.type.isAck = false := by
    rw [announced]
    cases move <;> rfl
  have openedThen : (answerTo move (hold message state)).report ≠ .closed := by
    rw [answerTo_report]
    exact opened
  exact .answer noAck (run_handleMessage_announced rfl announced quiet starts)
    openedThen (.done _)

/-- A tick of the embargo talks tells everybody about one move, or is silent. -/
theorem ensures_talk (bound : Nat) (state : ActorState) :
    embargoManagement.Ensures bound state fun _ after =>
      Ponders state after ∨
        ∃ move middle, Ponders state middle ∧
          state.embargo ∈ move.starts ∧ after = middle.announce move := by
  apply (covers_embargoManagement state (Policy.settles_anyhow _)).mono
  rintro status after ⟨_, ponders | ⟨_, middle, ponders, announces⟩⟩
  · exact .inl ponders
  · rcases announces with ⟨move, starts, _, rfl⟩
    rcases Ponders.exists_eq ponders with ⟨stream, arbiter, _, rfl⟩
    exact .inr ⟨move, _, ponders, starts, rfl⟩

end Behavior

/-! ## Two peers -/

namespace ActorState

theorem sends_announce (move : EmbargoMove) (state : ActorState) :
    Sends [move.announcement] state (state.announce move) := by
  rw [announce, moveEmbargo_eq]
  exact ⟨rfl, rfl, by simp [broadcast, send]⟩

/-- Nothing is sent while one is thinking. -/
theorem Sends.after_ponders {types : List MessageType}
    {before middle after : ActorState}
    (sends : Sends types middle after)
    (ponders : Ponders before middle) :
    Sends types before after := by
  rcases ponders.exists_eq with ⟨stream, arbiter, _, rfl⟩
  exact ⟨sends.name, sends.emitted, sends.sent⟩

/-- Nothing was sent, and the embargo is as it was. -/
structure Silent (before after : ActorState) : Prop where
  sends : Sends [] before after
  embargo : after.embargo = before.embargo

theorem Silent.of_ponders {before after : ActorState}
    (ponders : Ponders before after) :
    Silent before after := by
  rcases ponders.exists_eq with ⟨stream, arbiter, _, rfl⟩
  exact ⟨⟨rfl, by simp, by simp⟩, rfl⟩

end ActorState

open ActorState Behavior

/-- A peer answers the acceptance of a revision with an error and stays; it
follows and acknowledges any other move. -/
def Responds (move : EmbargoMove) (before after : ActorState) : Prop :=
  if AcceptsRevision move before.embargo then
    Sends [.embargoError] before after ∧ after.embargo = .revise
  else Sends [.embargoAck] before after ∧ after.embargo = move.target

theorem Behavior.responds_answerTo (move : EmbargoMove) (state : ActorState) :
    Responds move state (answerTo move state) := by
  rw [Responds]
  split
  case isTrue unusual =>
    rw [answerTo, if_pos unusual]
    exact ⟨.broadcast _ state, unusual.2⟩
  case isFalse usual =>
    rw [answerTo, if_neg usual, moveEmbargo_eq]
    exact ⟨⟨rfl, rfl, by simp [broadcast, send]⟩, rfl⟩

/-- The tick in which a peer answers an announcement that waits alone. -/
theorem BehaviorTree.exists_answer {receiver : BehaviorTree Unit ActorState}
    {bound : Nat} (move : EmbargoMove) (name : String)
    (receives : receiver.root.Hosts receiveMessages)
    (quiet : receiver.board.caseState.isQuiet = true)
    (starts : receiver.board.embargo ∈ move.starts)
    (opened : receiver.board.report ≠ .closed)
    (free : receiver.board.current = none)
    (enough : 1 < bound) :
    ∃ last,
      (receiver.withInbox [.broadcast move.announcement name]).tick bound =
        .ok (.success, last) ∧
      Responds move receiver.board last.board := by
  have answering : Answering bound [.broadcast move.announcement name]
      receiver.board _ := answering_announced rfl quiet starts opened
  rcases answering.tick receives opened free enough with ⟨last, ticked, ends⟩
  refine ⟨last, ticked, ?_⟩
  have answer := responds_answerTo move
    (hold (.broadcast move.announcement name) receiver.board)
  rw [Responds] at answer ⊢
  rw [ends]
  by_cases unusual : AcceptsRevision move receiver.board.embargo
  · rw [if_pos unusual]
    rw [if_pos (by exact unusual)] at answer
    exact ⟨⟨answer.1.name, answer.1.emitted, answer.1.sent⟩, answer.2⟩
  · rw [if_neg unusual]
    rw [if_neg (by exact unusual)] at answer
    exact ⟨⟨answer.1.name, answer.1.emitted, answer.1.sent⟩, answer.2⟩

/--
In a quiet case, a tick of the embargo talks of one peer is silent and leaves the
embargo as it is, or it tells everybody about a move by one message.  When that
message alone waits for another peer who was in the same embargo state, then the
other one is in the same state afterwards and answers with an acknowledgement,
unless the message is the acceptance of a revision: then the other one goes on
revising and answers with an error.
-/
theorem embargo_agreement_iff
    {sender receiver : BehaviorTree Unit ActorState} {bound : Nat}
    (sends : sender.root.Hosts embargoManagement)
    (receives : receiver.root.Hosts receiveMessages)
    (quiet : receiver.board.caseState.isQuiet = true)
    (together : sender.board.embargo = receiver.board.embargo)
    (opened : receiver.board.report ≠ .closed)
    (free : receiver.board.current = none)
    (enough : 1 < bound) :
    ∃ status after, sender.tick bound = .ok (status, after) ∧
      (Silent sender.board after.board ∨
        ∃ type last, Sends [type] sender.board after.board ∧
          (receiver.withInbox [.broadcast type sender.board.name]).tick bound =
            .ok (.success, last) ∧
          (last.board.embargo = after.board.embargo ∧
              Sends [.embargoAck] receiver.board last.board ↔
            ¬ (type = .embargoAccepted ∧ sender.board.embargo = .revise)) ∧
          (type = .embargoAccepted ∧ sender.board.embargo = .revise →
            after.board.embargo = .active ∧ last.board.embargo = .revise ∧
              Sends [.embargoError] receiver.board last.board)) := by
  rcases ensures_talk bound sender.board with ⟨status, state, talked, told⟩
  obtain ⟨after, ticked, _, rfl⟩ :=
    BehaviorTree.tick_of_hosts sends proper_embargoManagement talked
  refine ⟨status, after, ticked, ?_⟩
  rcases told with ponders | ⟨move, middle, ponders, starts, announced⟩
  · exact .inl (.of_ponders ponders)
  · have tells : Sends [move.announcement] sender.board after.board := by
      rw [announced]
      exact (sends_announce move middle).after_ponders ponders
    have moved : after.board.embargo = move.target := by
      rw [announced, announce]
      exact moveEmbargo_embargo move.target _
    have startsToo : receiver.board.embargo ∈ move.starts := together ▸ starts
    obtain ⟨last, heard, answer⟩ := BehaviorTree.exists_answer move
      sender.board.name receives quiet startsToo opened free enough
    have accepts : move.announcement = .embargoAccepted ↔ move = .accept := by
      cases move <;> decide
    refine .inr ⟨move.announcement, last, tells, heard, ?_⟩
    rw [accepts, together, moved]
    rw [Responds] at answer
    by_cases unusual : AcceptsRevision move receiver.board.embargo
    · rw [if_pos unusual] at answer
      rcases unusual with ⟨rfl, revising⟩
      refine ⟨iff_of_false ?_ (not_not_intro ⟨rfl, revising⟩), fun _ =>
        ⟨rfl, answer.2, answer.1⟩⟩
      rintro ⟨same, _⟩
      rw [answer.2] at same
      cases same
    · rw [if_neg unusual] at answer
      exact ⟨iff_of_true ⟨answer.2, answer.1⟩ unusual, fun accepted =>
        (unusual accepted).elim⟩

/-! ### Two exchanges -/

/-- Somebody with a report and an embargo, who reads the outcomes of decisions
off a tape. -/
def party (name : String) (embargo : EmbargoState) (tape : Array Status) :
    ActorState :=
  { ActorState.new name (.ofList [.vendor]) (.ofSeed 0) with
    report := .received
    embargo
    arbiter := .new (.taped 0 tape .weighted) }

/-- There is no reason to withdraw the proposal, and it is accepted. -/
def acceptor : ActorState :=
  party "alice" .proposed #[.failure, .success, .success]

/-- Neither the time nor another reason ends the embargo, and the revision is
accepted. -/
def reviser : ActorState :=
  party "alice" .revise #[.failure, .failure, .success, .success]

/-- What becomes of an embargo in a run, and what is said. -/
def talk (result : Status × ActorState) : EmbargoState × List MessageType :=
  (result.2.embargo, result.2.emitted)

theorem acceptor_emits :
    (embargoManagement.run 2 acceptor).toOption.map talk =
      some (.active, [.embargoAccepted]) := by
  decide +kernel

theorem reviser_emits :
    (embargoManagement.run 2 reviser).toOption.map talk =
      some (.active, [.embargoAccepted]) := by
  decide +kernel

/-- Who had said nothing before and sends one message has said just that. -/
theorem ActorState.Sends.type_eq {type said : MessageType}
    {before after : ActorState}
    (sends : Sends [type] before after)
    (silent : before.emitted = [])
    (emitted : after.emitted = [said]) :
    type = said := by
  rw [sends.emitted, silent] at emitted
  exact List.singleton_injective emitted

theorem ActorState.Silent.not_emitted {said : MessageType}
    {before after : ActorState}
    (silent : Silent before after)
    (silentBefore : before.emitted = [])
    (emitted : after.emitted = [said]) :
    False := by
  rw [silent.sends.emitted, silentBefore] at emitted
  cases emitted

/-- A proposal is accepted.  The other peer, to whom it is proposed as well,
acknowledges that, and both have an embargo. -/
theorem embargo_agreement_of_acceptor :
    ∃ sender receiver : BehaviorTree Unit ActorState,
      sender.root.Hosts embargoManagement ∧
      receiver.root.Hosts receiveMessages ∧
      sender.board = acceptor ∧ receiver.board = party "bob" .proposed #[] ∧
      ∃ status after last, sender.tick 2 = .ok (status, after) ∧
        Sends [.embargoAccepted] sender.board after.board ∧
        (receiver.withInbox [.broadcast .embargoAccepted
          sender.board.name]).tick 2 = .ok (.success, last) ∧
        after.board.embargo = .active ∧ last.board.embargo = .active ∧
        Sends [.embargoAck] receiver.board last.board := by
  obtain ⟨sender, sends, sender_eq⟩ :=
    BehaviorTree.exists_hosting proper_embargoManagement acceptor
  obtain ⟨receiver, receives, receiver_eq⟩ :=
    BehaviorTree.exists_hosting proper_receiveMessages
      (party "bob" .proposed #[])
  obtain ⟨status, after, ticked, told⟩ :=
    @embargo_agreement_iff sender receiver 2 sends receives
      (by rw [receiver_eq]; rfl) (by rw [sender_eq, receiver_eq]; rfl)
      (by rw [receiver_eq]; decide) (by rw [receiver_eq]; rfl) (by decide)
  obtain ⟨_, _, _, tickedToo, talked⟩ :=
    BehaviorTree.exists_tick_of_run sends proper_embargoManagement
      (sender_eq ▸ acceptor_emits)
  cases ticked.symm.trans tickedToo
  obtain ⟨accepted, emitted⟩ := Prod.mk.inj talked
  have silentBefore : sender.board.emitted = [] := by
    rw [sender_eq]
    rfl
  rcases told with silent | ⟨type, last, tells, heard, agree, _⟩
  · exact (silent.not_emitted silentBefore emitted).elim
  · cases tells.type_eq silentBefore emitted
    have unrevised : ¬ (MessageType.embargoAccepted = .embargoAccepted ∧
        sender.board.embargo = .revise) := by
      rw [sender_eq]
      decide
    obtain ⟨same, acknowledges⟩ := agree.mpr unrevised
    exact ⟨sender, receiver, sends, receives, sender_eq, receiver_eq, status,
      after, last, ticked, tells, heard, accepted, same.trans accepted,
      acknowledges⟩

/-- Two peers revise an embargo.  One of them accepts the revision and has an
embargo again; the other one answers with an error and goes on revising. -/
theorem embargo_disagreement :
    ∃ sender receiver : BehaviorTree Unit ActorState,
      sender.root.Hosts embargoManagement ∧
      receiver.root.Hosts receiveMessages ∧
      sender.board.caseState.isQuiet = true ∧
      receiver.board.caseState.isQuiet = true ∧
      sender.board.embargo = receiver.board.embargo ∧
      receiver.board.report ≠ .closed ∧ receiver.board.current = none ∧
      ∃ status after last, sender.tick 2 = .ok (status, after) ∧
        Sends [.embargoAccepted] sender.board after.board ∧
        (receiver.withInbox [.broadcast .embargoAccepted
          sender.board.name]).tick 2 = .ok (.success, last) ∧
        after.board.embargo = .active ∧ last.board.embargo = .revise ∧
        Sends [.embargoError] receiver.board last.board := by
  obtain ⟨sender, sends, sender_eq⟩ :=
    BehaviorTree.exists_hosting proper_embargoManagement reviser
  obtain ⟨receiver, receives, receiver_eq⟩ :=
    BehaviorTree.exists_hosting proper_receiveMessages
      (party "bob" .revise #[])
  obtain ⟨status, after, ran, ticked, talked⟩ :=
    BehaviorTree.exists_tick_of_run sends proper_embargoManagement
      (sender_eq ▸ reviser_emits)
  obtain ⟨accepted, emitted⟩ := Prod.mk.inj talked
  have silentBefore : sender.board.emitted = [] := by
    rw [sender_eq]
    rfl
  obtain ⟨_, _, ranToo, told⟩ := ensures_talk 2 sender.board
  cases ran.symm.trans ranToo
  have tells : Sends [.embargoAccepted] sender.board after.board := by
    rcases told with ponders | ⟨move, middle, ponders, _, announced⟩
    · exact ((Silent.of_ponders ponders).not_emitted silentBefore emitted).elim
    · rw [announced] at emitted ⊢
      have announces := (sends_announce move middle).after_ponders ponders
      exact announces.type_eq silentBefore emitted ▸ announces
  obtain ⟨last, heard, answer⟩ := BehaviorTree.exists_answer .accept
    sender.board.name receives (by rw [receiver_eq]; rfl)
    (by rw [receiver_eq]; decide) (by rw [receiver_eq]; decide)
    (by rw [receiver_eq]; rfl) (Nat.lt_succ_self 1)
  rw [Responds, if_pos ⟨rfl, by rw [receiver_eq]; rfl⟩] at answer
  exact ⟨sender, receiver, sends, receives, by rw [sender_eq]; rfl,
    by rw [receiver_eq]; rfl, by rw [sender_eq, receiver_eq]; rfl,
    by rw [receiver_eq]; decide, by rw [receiver_eq]; rfl, status, after, last,
    ticked, tells, heard, accepted, answer.2, answer.1⟩

end Disclosure
