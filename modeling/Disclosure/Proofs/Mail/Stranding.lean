import Disclosure.Proofs.Actor.Run
import Disclosure.Proofs.Protocol.Proper
import Disclosure.Proofs.Protocol.Reading

/-!
# Mail that stays in hand

A decision that is left open interrupts the handling of a message, and the
message stays in hand.  Ticks in which no decision is left open empty inbox and
hand, but only if nothing was in hand when they began.  Otherwise they handle
nothing: with other mail waiting the message goes back to the head of the inbox,
and without any it stays in hand.
-/

namespace Disclosure

open ActorState Behavior

/-! ## Answers -/

namespace ActorState

/-- What was answered between two states. -/
def answersSince (before after : ActorState) : List Answer :=
  after.arbiter.record.toList.drop before.arbiter.record.size

/-- No decision was left open between two states. -/
def Quiet (before after : ActorState) : Prop :=
  ∀ answer ∈ answersSince before after, answer.outcome ≠ .running

end ActorState

namespace Law

/-- The record of answers grows, and who answers that it is running has left a
decision open. -/
def recording : Law ActorState where
  holds before status after := ∃ answers,
    after.arbiter.record.toList = before.arbiter.record.toList ++ answers ∧
      (status = .running → ∃ answer ∈ answers, answer.outcome = .running)
  rest _ _ settled := ⟨[], by simp, fun running => (settled running).elim⟩
  trans := by
    rintro before middle after _ last ⟨earlier, grown, _⟩ ⟨later, grownOn, open'⟩
    refine ⟨earlier ++ later, ?_, ?_⟩
    · rw [grownOn, grown, List.append_assoc]
    · intro running
      rcases open' running with ⟨answer, member, outcome⟩
      exact ⟨answer, List.mem_append_right _ member, outcome⟩
  settle := by
    rintro before after _ _ ⟨answers, grown, _⟩ settled
    exact ⟨answers, grown, fun running => (settled running).elim⟩

/-- Nothing is written to the record. -/
theorem recording_of_eq {before after : ActorState}
    (same : after.arbiter = before.arbiter) :
    recording.holds before .success after :=
  ⟨[], by simp [same], nofun⟩

theorem plain_recording : recording.Plain where
  decide name weight state _ := by
    refine ⟨[⟨⟨name, weight⟩, (state.decide ⟨name, weight⟩).1⟩], ?_, ?_⟩
    · exact Array.toList_push
    · intro running
      exact ⟨_, List.mem_singleton_self _, running⟩
  moveReport target state := recording_of_eq (by rw [moveReport_eq])
  moveEmbargo target state := recording_of_eq (by rw [moveEmbargo_eq])
  setFlag flag state := recording_of_eq (by rw [setFlag, moveCase_eq])
  broadcast _ _ := recording_of_eq rfl

theorem incoming_recording : recording.Incoming where
  pop state := by
    rw [ActorState.popMessage]
    split
    · exact recording_of_eq rfl
    · exact recording.rest state .failure (by decide)
  push state := by
    rw [ActorState.pushMessage]
    split
    · exact recording_of_eq rfl
    · exact recording_of_eq rfl
  note state := by
    rw [ActorState.noteMessage]
    split
    · exact recording_of_eq rfl
    · exact recording_of_eq rfl
  drop _ := recording_of_eq rfl

/-- Who is running after a quiet while has not obeyed the law. -/
theorem settled_of_recording {before after : ActorState} {status : Status}
    (holds : recording.holds before status after)
    (quiet : Quiet before after) :
    status ≠ .running := by
  rintro running
  rcases holds with ⟨answers, grown, open'⟩
  rcases open' running with ⟨answer, member, outcome⟩
  refine quiet answer ?_ outcome
  rw [answersSince, grown, ← Array.length_toList, List.drop_left]
  exact member

end Law

/-! ## One tick -/

namespace Behavior

variable {bound : Nat}

/-- What a tick of the loop over the inbox comes to, if it is quiet. -/
theorem ensures_quietReading {state : ActorState}
    (opened : state.report ≠ .closed)
    (small : state.inbox.length < bound) :
    receiveMessages.Ensures bound state fun _ after =>
      after.report ≠ .closed ∧
      (Quiet state after →
        (state.current = none → after.inbox = [] ∧ after.current = none) ∧
        ∀ message, state.current = some message →
          after = leftOver message state) := by
  have records : receiveMessages.Obeys .recording :=
    obeys_receiveMessages Law.plain_recording Law.incoming_recording
  apply ((ensures_reading small).lawful records).mono
  rintro status after ⟨⟨gone, middle, clears, halts⟩, recorded⟩
  refine ⟨halts.keepsOpen (clears.keepsOpen opened), fun quiet => ?_⟩
  exact halts.leaves opened clears
    (Law.settled_of_recording recorded quiet)

end Behavior

/-! ## Runs -/

namespace BehaviorTree

/-- A tree at work on an actor is given a message, or it is ticked. -/
def undergo (tree : BehaviorTree Unit ActorState) :
    Actor.Event → Except TickError (BehaviorTree Unit ActorState)
  | .deliver message => .ok (tree.modify (·.deliver message))
  | .tick => do
    let (_, next) ← tree.tick (tree.board.inbox.length + 1)
    return next

/-- Several events, one after the other. -/
def undergoAll (tree : BehaviorTree Unit ActorState)
    (events : List Actor.Event) :
    Except TickError (BehaviorTree Unit ActorState) :=
  events.foldlM undergo tree

/-- The tree reads the mail of an actor whose report is open. -/
structure Reads (tree : BehaviorTree Unit ActorState) : Prop where
  hosts : tree.root.Hosts receiveMessages
  opened : tree.board.report ≠ .closed

theorem Reads.tick {tree : BehaviorTree Unit ActorState}
    (reads : tree.Reads) :
    ∃ status last,
      tree.tick (tree.board.inbox.length + 1) = .ok (status, last) ∧
      last.Reads ∧
      (Quiet tree.board last.board →
        (tree.board.current = none →
          last.board.inbox = [] ∧ last.board.current = none) ∧
        ∀ message, tree.board.current = some message →
          last.board = leftOver message tree.board) := by
  obtain ⟨status, after, ran, opened, quiet⟩ :=
    ensures_quietReading reads.opened (Nat.lt_succ_self _)
  obtain ⟨last, ticked, hosts, rfl⟩ :=
    tick_of_hosts reads.hosts proper_receiveMessages ran
  exact ⟨status, last, ticked, ⟨hosts, opened⟩, quiet⟩

theorem Reads.undergo {tree : BehaviorTree Unit ActorState}
    (reads : tree.Reads) (event : Actor.Event) :
    ∃ next, tree.undergo event = .ok next ∧ next.Reads := by
  cases event with
  | deliver message => exact ⟨_, rfl, reads.hosts, reads.opened⟩
  | tick =>
    rcases reads.tick with ⟨status, last, ticked, readsOn, _⟩
    refine ⟨last, ?_, readsOn⟩
    rw [BehaviorTree.undergo, ticked]
    rfl

theorem Reads.undergoAll {tree : BehaviorTree Unit ActorState}
    (reads : tree.Reads) (events : List Actor.Event) :
    ∃ next, tree.undergoAll events = .ok next ∧ next.Reads := by
  induction events generalizing tree with
  | nil => exact ⟨tree, rfl, reads⟩
  | cons event events ih =>
    rcases reads.undergo event with ⟨middle, first, readsOn⟩
    rcases ih readsOn with ⟨next, rest, readsStill⟩
    refine ⟨next, ?_, readsStill⟩
    rw [BehaviorTree.undergoAll, List.foldlM_cons, first]
    exact rest

end BehaviorTree

/--
When mail is stranded: after any deliveries and any ticks of the loop over the
inbox, whatever was decided or left open, a further tick in which no decision is
left open empties the inbox and the hand exactly if nothing was in hand when it
began.  What was in hand stays there as long as no other mail waits; with other
mail waiting it goes back to the head of the inbox, and that is all.
-/
theorem mail_emptied_iff_nothing_in_hand
    {tree : BehaviorTree Unit ActorState}
    (receives : tree.root.Hosts receiveMessages)
    (opened : tree.board.report ≠ .closed)
    (events : List Actor.Event) :
    ∃ middle status last,
      tree.undergoAll events = .ok middle ∧
      middle.tick (middle.board.inbox.length + 1) = .ok (status, last) ∧
      (Quiet middle.board last.board →
        (last.board.inbox = [] ∧ last.board.current = none ↔
          middle.board.current = none) ∧
        ∀ message, middle.board.current = some message →
          last.board = leftOver message middle.board) := by
  have reads : tree.Reads := ⟨receives, opened⟩
  rcases reads.undergoAll events with ⟨middle, went, readsOn⟩
  rcases readsOn.tick with ⟨status, last, ticked, _, ends⟩
  refine ⟨middle, status, last, went, ticked, fun quiet => ?_⟩
  rcases ends quiet with ⟨empties, leaves⟩
  refine ⟨⟨?_, empties⟩, leaves⟩
  rintro ⟨noMail, free⟩
  by_contra occupied
  rcases Option.ne_none_iff_exists'.mp occupied with ⟨message, left⟩
  rw [leaves message left, leftOver] at noMail free
  split at noMail
  · rename_i nothing
    rw [if_pos nothing, left] at free
    cases free
  · cases noMail

/-- A vendor whose first decision is left open and whose further ones are made
by chance. -/
def hesitantVendor : ActorState :=
  { ActorState.new "vendor" (.ofList [.vendor]) (.ofSeed 0) with
    arbiter := .new (.taped 0 #[.running] .weighted) }

/-- An error that somebody else reports. -/
def foreignError : Message := .broadcast .reportError "finder"

/-- The decision what to do about the error is left open.  The error is in hand
then, and the next tick changes nothing. -/
theorem exists_hesitation :
    ∃ tree : BehaviorTree Unit ActorState,
      tree.root.Hosts receiveMessages ∧ tree.board = hesitantVendor ∧
      ∃ middle status last,
        tree.undergoAll [.deliver foreignError, .tick] = .ok middle ∧
        middle.board.inbox = [] ∧ middle.board.current = some foreignError ∧
        middle.tick 1 = .ok (status, last) ∧ last.board = middle.board := by
  obtain ⟨tree, receives, vendor⟩ :=
    BehaviorTree.exists_hosting proper_receiveMessages hesitantVendor
  obtain ⟨after, ran, left, noMail⟩ :
      ∃ after, receiveMessages.run 2 (hesitantVendor.deliver foreignError) =
          .ok (.running, after) ∧
        after.current = some foreignError ∧ after.inbox = [] :=
    ⟨_, rfl, rfl, rfl⟩
  have delivered : (tree.modify (·.deliver foreignError)).root.Hosts
      receiveMessages := receives
  have begins : (tree.modify (·.deliver foreignError)).board =
      hesitantVendor.deliver foreignError :=
    congrArg (ActorState.deliver foreignError) vendor
  rw [← begins] at ran
  obtain ⟨middle, ticked, hosts, rfl⟩ :=
    BehaviorTree.tick_of_hosts delivered proper_receiveMessages ran
  have two : (tree.modify (·.deliver foreignError)).board.inbox.length + 1 =
      2 := by
    rw [begins]
    rfl
  have went : tree.undergoAll [.deliver foreignError, .tick] = .ok middle := by
    rw [BehaviorTree.undergoAll, List.foldlM_cons, BehaviorTree.undergo]
    simp only [bind, Except.bind, List.foldlM_cons, BehaviorTree.undergo, two,
      ticked]
    rfl
  obtain ⟨status, rested, ranOn, gone, read, clears, halts⟩ :=
    ensures_reading (show middle.board.inbox.length < 1 by simp [noMail])
  have same : rested = middle.board := by
    rw [clears.eq_of_current left] at halts
    cases halts with
    | closed | idle => rfl
    | blocked waiting => exact (waiting noMail).elim
    | interrupted takes =>
      rw [takes.free] at left
      cases left
  rw [same] at ranOn
  obtain ⟨last, tickedOn, _, idle⟩ :=
    BehaviorTree.tick_of_hosts hosts proper_receiveMessages ranOn
  exact ⟨tree, receives, vendor, middle, status, last, went, noMail, left,
    tickedOn, idle⟩

/-- Nothing is decided while nothing changes. -/
theorem ActorState.Quiet.of_eq {before after : ActorState}
    (idle : after = before) :
    Quiet before after := by
  intro answer member
  rw [idle, answersSince, ← Array.length_toList, List.drop_length] at member
  cases member

/-- The error is in hand when a quiet tick begins, and so it is after it. -/
theorem mail_emptied_of_hesitantVendor :
    ∃ tree : BehaviorTree Unit ActorState,
      tree.root.Hosts receiveMessages ∧ tree.board = hesitantVendor ∧
      tree.board.report ≠ .closed ∧
      ∃ middle status last,
        tree.undergoAll [.deliver foreignError, .tick] = .ok middle ∧
        middle.tick (middle.board.inbox.length + 1) = .ok (status, last) ∧
        Quiet middle.board last.board ∧
        middle.board.current = some foreignError ∧
        ¬ (last.board.inbox = [] ∧ last.board.current = none) ∧
        last.board = leftOver foreignError middle.board := by
  obtain ⟨tree, receives, vendor, middle, status, last, went, noMail, left,
    ticked, idle⟩ := exists_hesitation
  have opened : tree.board.report ≠ .closed := by
    rw [vendor]
    decide
  obtain ⟨_, _, _, wentToo, tickedToo, ends⟩ :=
    mail_emptied_iff_nothing_in_hand receives opened
      [.deliver foreignError, .tick]
  cases went.symm.trans wentToo
  have one : middle.board.inbox.length + 1 = 1 := by
    rw [noMail]
    rfl
  cases ticked.symm.trans (one ▸ tickedToo)
  have quiet : Quiet middle.board last.board := .of_eq idle
  obtain ⟨empties, leaves⟩ := ends quiet
  have occupied : middle.board.current ≠ none := by
    rw [left]
    exact Option.some_ne_none foreignError
  exact ⟨tree, receives, vendor, opened, middle, status, last, went, tickedToo,
    quiet, left, mt empties.mp occupied, leaves foreignError left⟩

/-- An error arrives while nothing is in hand, and the decision what to do about
it is left open.  In the next tick nothing is decided at all, and the error is
still in hand after it. -/
theorem error_stays_in_hand :
    ∃ tree : BehaviorTree Unit ActorState,
      tree.root.Hosts receiveMessages ∧ tree.board = hesitantVendor ∧
      tree.board.report ≠ .closed ∧ tree.board.inbox = [] ∧
      tree.board.current = none ∧
      ∃ middle status last,
        tree.undergoAll [.deliver foreignError, .tick] = .ok middle ∧
        middle.tick 1 = .ok (status, last) ∧
        Quiet middle.board last.board ∧
        last.board.current = some foreignError := by
  obtain ⟨tree, receives, vendor, middle, status, last, went, _, left, ticked,
    idle⟩ := exists_hesitation
  exact ⟨tree, receives, vendor, by rw [vendor]; decide, by rw [vendor]; rfl,
    by rw [vendor]; rfl, middle, status, last, went, ticked, .of_eq idle,
    by rw [idle]; exact left⟩

end Disclosure
