import Disclosure.Proofs.Protocol.Answering
import Disclosure.Proofs.Protocol.Proper

/-!
# One reply for each message

When no decision is left pending, an actor goes through all of its mail in one
tick.  It notes every message in the order of arrival and replies once to each
message that is no acknowledgement, in the same order: by the acknowledgement of
the category of the message or, unless the message is an error itself, by the
error of that category.  Acknowledgements are noted and have no other effect.
-/

namespace Disclosure

/-- The messages that call for a reply. -/
def needingReply (inbox : List Message) : List Message :=
  inbox.filter fun message => !message.type.isAck

theorem MessageType.Replies.isReply {type reply : MessageType}
    (replies : type.Replies reply) :
    reply.isReply = true := by
  rcases replies with rfl | ⟨rfl, _⟩ <;> cases type <;> rfl

namespace ActorState

/-- Replies to some messages were sent, one for each, and maybe some news. -/
structure AnswersAll (messages : List Message) (before after : ActorState) :
    Prop where
  replies : ∃ types, Sends types before after ∧
    List.Forall₂ (fun message reply => message.type.Replies reply) messages
      (types.filter MessageType.isReply)
  current : after.current = none

theorem AnswersAll.nothing {state : ActorState}
    (free : state.current = none) :
    AnswersAll [] state state :=
  ⟨⟨[], .nothing state, .nil⟩, free⟩

/-- Some news and a reply to one message come before the replies to others. -/
theorem AnswersAll.cons {message : Message} {messages : List Message}
    {before middle after : ActorState} {news : List MessageType}
    {reply : MessageType}
    (sends : Sends (news ++ [reply]) before middle)
    (noReplies : ∀ type ∈ news, type.isReply = false)
    (replies : message.type.Replies reply)
    (others : AnswersAll messages middle after) :
    AnswersAll (message :: messages) before after := by
  rcases others.replies with ⟨types, sendsOthers, matched⟩
  refine ⟨⟨news ++ [reply] ++ types, sends.trans sendsOthers, ?_⟩,
    others.current⟩
  have noNews : news.filter MessageType.isReply = [] :=
    List.filter_eq_nil_iff.mpr fun type member => by simp [noReplies type member]
  have filtered : (news ++ [reply] ++ types).filter MessageType.isReply =
      reply :: types.filter MessageType.isReply := by
    simp [noNews, replies.isReply]
  rw [filtered]
  exact .cons replies matched

end ActorState

namespace Behavior

open ActorState

variable {bound : Nat}

/-- All mail can be gone through, and what needs a reply gets one. -/
theorem exists_answering (bound : Nat) (inbox : List Message)
    (state : ActorState)
    (opened : state.report ≠ .closed)
    (free : state.current = none)
    (settles : state.arbiter.policy.Settles false) :
    ∃ after, Answering bound inbox state after ∧
      AnswersAll (needingReply inbox) state after := by
  induction inbox generalizing state with
  | nil => exact ⟨state, .done state, .nothing free⟩
  | cons message rest ih =>
    by_cases ack : message.type.isAck = true
    · rcases ih state opened free settles with ⟨after, answering, answers⟩
      refine ⟨after, .skip ack answering, ?_⟩
      rw [needingReply, List.filter_cons_of_neg (by simp [ack])]
      exact answers
    · have ready : (handling false message).ready (hold message state) :=
        ⟨rfl, settles⟩
      have handles : handleMessage.Ensures bound (hold message state)
          (Handled false message (hold message state)) :=
        handleMessage_handled ready
      rcases handles with ⟨status, held, ran, ends⟩
      cases ends with
      | acknowledgement impossible => exact (ack impossible).elim
      | interrupted _ impossible => cases impossible
      | @answered middle reply noAck path replies =>
        have aside := handling_aside path
        rcases aside.news with ⟨news, sends, noReplies⟩
        have settlesThen : middle.arbiter.policy.Settles false :=
          (Course.Path.ready path ready).2
        have openedThen : middle.report ≠ .closed := aside.keepsOpen opened
        obtain ⟨after, answering, answers⟩ :=
          ih (middle.broadcast reply).dropMessage openedThen rfl settlesThen
        have replied : Sends (news ++ [reply]) (hold message state)
            (middle.broadcast reply) := sends.trans (.broadcast reply middle)
        have repliedHere : Sends (news ++ [reply]) state
            (middle.broadcast reply).dropMessage :=
          ⟨replied.name, replied.emitted, replied.sent⟩
        refine ⟨after, .answer noAck ran openedThen answering, ?_⟩
        rw [needingReply, List.filter_cons_of_pos (by simp [noAck])]
        exact .cons repliedHere noReplies replies answers

end Behavior

open ActorState Behavior

/--
One reply for each message: a tick of the loop over the inbox, in which no
decision is left pending, empties the inbox and notes all of its messages in the
order of arrival.  The acknowledgements and errors that are sent answer the
messages that are no acknowledgements one by one, in the same order and each in
its category, and errors are acknowledged.  Without the acknowledgements in the
inbox the tick does the same, but for the record of what was received.
-/
theorem one_reply_per_message
    {tree : BehaviorTree Unit ActorState} {bound : Nat}
    (receives : tree.root.Hosts receiveMessages)
    (opened : tree.board.report ≠ .closed)
    (free : tree.board.current = none)
    (settles : tree.board.arbiter.policy.Settles false)
    (small : tree.board.inbox.length < bound) :
    ∃ last, tree.tick bound = .ok (.success, last) ∧
      last.board.inbox = [] ∧ last.board.current = none ∧
      last.board.received =
        tree.board.received ++ tree.board.inbox.map Message.type ∧
      (∃ types, Sends types tree.board last.board ∧
        List.Forall₂ (fun message reply => message.type.Replies reply)
          (needingReply tree.board.inbox)
          (types.filter MessageType.isReply)) ∧
      ∃ other,
        (tree.withInbox (needingReply tree.board.inbox)).tick bound =
            .ok (.success, other) ∧
        other.board = { last.board with received := other.board.received } := by
  obtain ⟨after, answering, answers⟩ :=
    exists_answering bound tree.board.inbox tree.board opened free settles
  have fewer : (needingReply tree.board.inbox).length < bound :=
    Nat.lt_of_le_of_lt (List.length_filter_le _ _) small
  obtain ⟨last, ticked, ends⟩ :=
    answering.tick receives opened free small
  obtain ⟨other, tickedToo, endsToo⟩ :=
    answering.filter.tick receives opened free fewer
  rcases answers.replies with ⟨types, sends, matched⟩
  refine ⟨last, ticked, ?_⟩
  rw [ends]
  refine ⟨rfl, answers.current, rfl,
    ⟨types, ⟨sends.name, sends.emitted, sends.sent⟩, matched⟩, other,
    tickedToo, ?_⟩
  rw [endsToo]
  rfl

/-- A vendor with four messages, among them an acknowledgement and an error. -/
def busyVendor : ActorState :=
  { ActorState.new "vendor" (.ofList [.vendor]) (.ofSeed 0) with
    inbox :=
      [.broadcast .reportSubmission "finder", .broadcast .embargoAck "finder",
       .broadcast .embargoAccepted "finder", .broadcast .generalError "finder"]
    arbiter := .new .agreeable }

theorem one_reply_per_message_of_busyVendor :
    ∃ tree : BehaviorTree Unit ActorState,
      tree.root.Hosts receiveMessages ∧ tree.board = busyVendor ∧
      ∃ last, tree.tick 5 = .ok (.success, last) ∧
        last.board.inbox = [] ∧ last.board.current = none ∧
        last.board.received =
          tree.board.received ++ tree.board.inbox.map Message.type ∧
        (∃ types, Sends types tree.board last.board ∧
          List.Forall₂ (fun message reply => message.type.Replies reply)
            (needingReply tree.board.inbox)
            (types.filter MessageType.isReply)) ∧
        ∃ other,
          (tree.withInbox (needingReply tree.board.inbox)).tick 5 =
              .ok (.success, other) ∧
          other.board =
            { last.board with received := other.board.received } := by
  obtain ⟨tree, receives, vendor⟩ :=
    BehaviorTree.exists_hosting proper_receiveMessages busyVendor
  have settles : tree.board.arbiter.policy.Settles false := by
    rw [vendor]
    exact nofun
  exact ⟨tree, receives, vendor, one_reply_per_message receives
    (by rw [vendor]; decide) (by rw [vendor]; rfl) settles
    (by rw [vendor]; decide)⟩

end Disclosure
