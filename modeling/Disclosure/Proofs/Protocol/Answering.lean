import Disclosure.Proofs.Protocol.Proper
import Disclosure.Proofs.Protocol.Refiling

/-!
# Going through the mail

The loop over the inbox handles one message after the other.  What comes of it
depends on the messages that are no acknowledgements only; the acknowledgements
are noted and passed over.
-/

namespace Disclosure

namespace Behavior

open ActorState

variable {bound : Nat} {message : Message}

/-- The state in which a message is in hand. -/
def hold (message : Message) (state : ActorState) : ActorState :=
  { state with current := some message }

theorem dropMessage_hold {state : ActorState}
    (free : state.current = none) :
    (hold message state).dropMessage = state := by
  cases state
  cases free
  rfl

/-- Messages are handled with success, one after the other. -/
inductive Answering (bound : Nat) :
    List Message → ActorState → ActorState → Prop
  | done (state : ActorState) : Answering bound [] state state
  /-- There is nothing to do about an acknowledgement. -/
  | skip {message : Message} {rest : List Message} {state after : ActorState}
      (ack : message.type.isAck = true)
      (further : Answering bound rest state after) :
    Answering bound (message :: rest) state after
  | answer {message : Message} {rest : List Message}
      {state middle after : ActorState}
      (noAck : message.type.isAck = false)
      (handles : handleMessage.run bound (hold message state) =
        .ok (.success, middle))
      (opened : middle.report ≠ .closed)
      (further : Answering bound rest middle.dropMessage after) :
    Answering bound (message :: rest) state after

/-- Acknowledgements may be left out. -/
theorem Answering.filter {messages : List Message}
    {state after : ActorState}
    (answering : Answering bound messages state after) :
    Answering bound
      (messages.filter fun message => !message.type.isAck) state after := by
  induction answering with
  | done state => exact .done state
  | skip ack _ ih =>
    rw [List.filter_cons_of_neg (by simp [ack])]
    exact ih
  | answer noAck handles opened _ ih =>
    rw [List.filter_cons_of_pos (by simp [noAck])]
    exact .answer noAck handles opened ih

/-- An acknowledgement in hand is handled by doing nothing. -/
theorem run_handleMessage_ack {state : ActorState}
    (ack : message.type.isAck = true) :
    handleMessage.run bound (hold message state) =
      .ok (.success, hold message state) := by
  have ensures : handleMessage.Ensures bound (hold message state)
      fun status after => status = .success ∧ after = hold message state := by
    rw [ensures_handleMessage rfl, if_pos ack]
    exact ⟨rfl, rfl⟩
  rcases ensures with ⟨_, _, ran, rfl, rfl⟩
  exact ran

/-- A turn handles the oldest message, whatever mail waits behind it. -/
theorem ensures_receive_handled {state middle : ActorState}
    {rest : List Message} {received : List MessageType}
    (opened : state.report ≠ .closed)
    (free : state.current = none)
    (handles : handleMessage.run bound (hold message state) =
      .ok (.success, middle)) :
    receiveNextMessage.Ensures bound
      (state.refile (message :: rest) received)
      fun status after => status = .success ∧
        after = middle.dropMessage.refile rest
          (received ++ [message.type]) := by
  have openedToo :
      (state.refile (message :: rest) received).report ≠ .closed := opened
  have freeToo :
      (state.refile (message :: rest) received).current = none := free
  rw [ensures_receive_taken openedToo freeToo rfl]
  have held : handleMessage.Ensures bound
      (takeUp message rest (state.refile (message :: rest) received))
      fun status after => status = .success ∧
        after = middle.refile rest (received ++ [message.type]) :=
    ignores_handleMessage.ensures ⟨.success, middle, handles, rfl, rfl⟩
  apply held.mono
  rintro status after ⟨rfl, rfl⟩
  exact ⟨rfl, rfl⟩

/-- The loop does what answering the messages one after the other does. -/
theorem Answering.ensures_receiveMessages {inbox : List Message}
    {state after : ActorState} {received : List MessageType}
    (answering : Answering bound inbox state after)
    (opened : state.report ≠ .closed)
    (free : state.current = none)
    (small : inbox.length < bound) :
    receiveMessages.Ensures bound (state.refile inbox received)
      fun status last => status = .success ∧
        last = after.refile [] (received ++ inbox.map Message.type) := by
  -- What is left to answer leads to the same end, and the record is as it will
  -- be when the types of what is left are added to it.
  refine Spec.ensures_untilFailure
    (fun before => ∃ inboxLeft stateNow receivedNow,
      before = ActorState.refile inboxLeft receivedNow stateNow ∧
        Answering bound inboxLeft stateNow after ∧
        stateNow.report ≠ .closed ∧ stateNow.current = none ∧
        receivedNow ++ inboxLeft.map Message.type =
          received ++ inbox.map Message.type)
    (fun before => before.inbox.length) ?_
    ⟨inbox, state, received, rfl, answering, opened, free, rfl⟩ small
  rintro before ⟨inboxLeft, stateNow, receivedNow, rfl, left, openedNow,
    freeNow, total⟩
  have noted : ∀ (message : Message) (rest : List Message),
      receivedNow ++ (message :: rest).map Message.type =
        receivedNow ++ [message.type] ++ rest.map Message.type := by
    simp
  cases left with
  | done =>
    rw [ensures_receive_rest (.inr rfl)]
    simp only [List.map_nil, List.append_nil] at total
    exact ⟨rfl, by rw [total]⟩
  | @skip message rest _ _ ack further =>
    refine (ensures_receive_handled openedNow freeNow
      (run_handleMessage_ack ack)).mono ?_
    rintro status last ⟨rfl, rfl⟩
    refine ⟨⟨rest, stateNow, receivedNow ++ [message.type], ?_, further,
      openedNow, freeNow, (noted message rest).symm.trans total⟩, ?_⟩
    · rw [dropMessage_hold freeNow]
    · exact Nat.lt_succ_self _
  | @answer message rest _ middle _ noAck handles openedThen further =>
    apply (ensures_receive_handled openedNow freeNow handles).mono
    rintro status last ⟨rfl, rfl⟩
    exact ⟨⟨rest, middle.dropMessage, receivedNow ++ [message.type], rfl,
      further, openedThen, rfl, (noted message rest).symm.trans total⟩,
      Nat.lt_succ_self _⟩

end Behavior

/-! ## In a tick -/

namespace BehaviorTree

/-- The same tree with other mail in the inbox. -/
def withInbox (inbox : List Message) (tree : BehaviorTree Unit ActorState) :
    BehaviorTree Unit ActorState :=
  tree.modify fun state => { state with inbox }

end BehaviorTree

open Behavior

/-- A tick of the loop answers the messages one after the other. -/
theorem Behavior.Answering.tick {tree : BehaviorTree Unit ActorState}
    {bound : Nat} {inbox : List Message} {after : ActorState}
    (answering : Answering bound inbox tree.board after)
    (receives : tree.root.Hosts receiveMessages)
    (opened : tree.board.report ≠ .closed)
    (free : tree.board.current = none)
    (small : inbox.length < bound) :
    ∃ last, (tree.withInbox inbox).tick bound = .ok (.success, last) ∧
      last.board =
        after.refile [] (tree.board.received ++ inbox.map Message.type) := by
  have goes : receiveMessages.Ensures bound (tree.withInbox inbox).board _ :=
    answering.ensures_receiveMessages opened free small
  rcases goes with ⟨_, _, ran, rfl, rfl⟩
  have receivesToo : (tree.withInbox inbox).root.Hosts receiveMessages :=
    receives
  obtain ⟨last, ticked, _, ends⟩ :=
    BehaviorTree.tick_of_hosts receivesToo proper_receiveMessages ran
  exact ⟨last, ticked, ends⟩

end Disclosure
