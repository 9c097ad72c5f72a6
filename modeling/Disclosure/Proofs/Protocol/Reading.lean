import Disclosure.Proofs.Protocol.Frame
import Disclosure.Proofs.Protocol.Receiving
import Disclosure.Proofs.Tree.Bounds

/-!
# Reading the mail

From any state the loop over the inbox handles some messages, one after the other
and each of them to success, and then it halts: because the report is closed,
because no mail is left, because another message is still in hand, or because
the handling of a message is interrupted.  Nothing but the messages that were
handled leaves the mail.
-/

namespace Disclosure

namespace ActorState

/-- The message in hand, if there is one, and behind it all that wait. -/
def mail (state : ActorState) : List Message :=
  state.current.toList ++ state.inbox

theorem mail_of_desk {before after : ActorState}
    (same : after.desk = before.desk) :
    after.mail = before.mail := by
  have inbox : after.inbox = before.inbox := congrArg Prod.fst same
  have current : after.current = before.current :=
    congrArg (fun desk => desk.2.1) same
  rw [mail, mail, inbox, current]

end ActorState

namespace Behavior

open ActorState

variable {bound : Nat} {message : Message}

/-- The oldest message can be taken up. -/
structure Takes (message : Message) (rest : List Message)
    (state : ActorState) : Prop where
  opened : state.report ≠ .closed
  free : state.current = none
  waiting : state.inbox = message :: rest

/-- Messages are taken up in the order of arrival, handled to success and put
away, one after the other. -/
inductive Clears : List Message → ActorState → ActorState → Prop
  | nothing (state : ActorState) : Clears [] state state
  | cons {message : Message} {rest others : List Message}
      {state middle after : ActorState}
      (takes : Takes message rest state)
      (handled : ∀ bound, handleMessage.run bound (takeUp message rest state) =
        .ok (.success, middle))
      (further : Clears others middle.dropMessage after) :
    Clears (message :: others) state after

/-- The ways in which the loop over the inbox comes to its end. -/
inductive Halts (state : ActorState) : Status → ActorState → Prop
  | closed (shut : state.report = .closed) : Halts state .success state
  | idle (nothing : state.inbox = []) : Halts state .success state
  /-- What is in hand from an earlier tick goes back to the inbox. -/
  | blocked {message : Message}
      (waiting : state.inbox ≠ [])
      (left : state.current = some message) :
    Halts state .success
      { state with current := none, inbox := message :: state.inbox }
  | interrupted {message : Message} {rest : List Message}
      {after : ActorState}
      (takes : Takes message rest state)
      (handled : ∀ bound, handleMessage.run bound (takeUp message rest state) =
        .ok (.running, after)) :
    Halts state .running after

/-! ## Single messages -/

/-- Handling a message has one outcome, whatever the bound. -/
theorem exists_handled (state : ActorState)
    (handled : state.current = some message) :
    ∃ status after, Handled true message state status after ∧
      ∀ bound, handleMessage.run bound state = .ok (status, after) := by
  have ready : (handling true message).ready state :=
    ⟨handled, Policy.settles_anyhow _⟩
  have handles : handleMessage.Ensures 0 state (Handled true message state) :=
    handleMessage_handled ready
  rcases handles with ⟨status, after, ran, ends⟩
  exact ⟨status, after, ends,
    fun bound => Tree.run_extends (Nat.zero_le bound) ran⟩

theorem handled_of_run {state after : ActorState} {status : Status}
    (handled : state.current = some message)
    (ran : handleMessage.run 0 state = .ok (status, after)) :
    Handled true message state status after := by
  rcases exists_handled state handled with ⟨status, after, ends, runs⟩
  rw [runs 0] at ran
  cases ran
  exact ends

/-- While a message is handled, the desk stays as it is. -/
theorem Handled.desk {pending : Bool} {before after : ActorState}
    {status : Status}
    (ends : Handled pending message before status after) :
    after.desk = before.desk := by
  have aside : ∀ {middle : ActorState}, Aside before middle →
      middle.desk = before.desk := by
    intro middle same
    rw [ActorState.desk, same.inbox, same.current, same.received]
    rfl
  cases ends with
  | acknowledgement => rfl
  | @answered middle reply _ path _ =>
    have same : middle.desk = before.desk := aside (handling_aside path)
    exact same
  | interrupted _ _ path => exact aside (handling_aside path)

/-- Nor is the report closed. -/
theorem Handled.keepsOpen {pending : Bool} {before after : ActorState}
    {status : Status}
    (ends : Handled pending message before status after)
    (opened : before.report ≠ .closed) :
    after.report ≠ .closed := by
  cases ends with
  | acknowledgement => exact opened
  | answered _ path _ => exact (handling_aside path).keepsOpen opened
  | interrupted _ _ path => exact (handling_aside path).keepsOpen opened

theorem desk_of_run {rest : List Message} {state after : ActorState}
    {status : Status}
    (ran : handleMessage.run 0 (takeUp message rest state) =
      .ok (status, after)) :
    after.desk = (rest, some message, state.received ++ [message.type]) :=
  (handled_of_run (by exact rfl) ran).desk

theorem Clears.single {rest : List Message} {state middle : ActorState}
    (takes : Takes message rest state)
    (handled : ∀ bound, handleMessage.run bound (takeUp message rest state) =
      .ok (.success, middle)) :
    Clears [message] state middle.dropMessage :=
  .cons takes handled (.nothing _)

theorem Clears.append {earlier later : List Message}
    {before middle after : ActorState}
    (first : Clears earlier before middle)
    (second : Clears later middle after) :
    Clears (earlier ++ later) before after := by
  induction first with
  | nothing => exact second
  | cons takes handled _ ih => exact .cons takes handled (ih second)

/-! ## The mail -/

/-- What was handled was the beginning of the inbox. -/
theorem Clears.inbox {gone : List Message} {before after : ActorState}
    (clears : Clears gone before after) :
    before.inbox = gone ++ after.inbox := by
  induction clears with
  | nothing => rfl
  | @cons _ rest _ _ middle _ takes handled _ ih =>
    have kept : middle.inbox = rest :=
      congrArg Prod.fst (desk_of_run (handled 0))
    rw [takes.waiting, List.cons_append, ← ih, ← kept]
    rfl

/-- Nothing is in hand between two messages. -/
theorem Clears.current {gone : List Message} {before after : ActorState}
    (clears : Clears gone before after) :
    after.current = before.current := by
  induction clears with
  | nothing => rfl
  | cons takes _ _ ih =>
    rw [ih, takes.free]
    rfl

/-- Each message that was handled is noted. -/
theorem Clears.received {gone : List Message} {before after : ActorState}
    (clears : Clears gone before after) :
    after.received = before.received ++ gone.map Message.type := by
  induction clears with
  | nothing => simp
  | @cons message _ _ state middle _ takes handled _ ih =>
    have noted : middle.received = state.received ++ [message.type] :=
      congrArg (fun desk => desk.2.2) (desk_of_run (handled 0))
    have put : middle.dropMessage.received =
        state.received ++ [message.type] := noted
    rw [ih, put, List.append_assoc]
    rfl

theorem Clears.mail {gone : List Message} {before after : ActorState}
    (clears : Clears gone before after) :
    before.mail = gone ++ after.mail := by
  cases clears with
  | nothing => rfl
  | cons takes handled further =>
    have free : after.current = none := further.current
    have inbox := (Clears.cons takes handled further).inbox
    rw [ActorState.mail, ActorState.mail, takes.free, free, inbox]
    rfl

/-- Halting moves a message between hand and inbox at most. -/
theorem Halts.mail {state after : ActorState} {status : Status}
    (halts : Halts state status after) :
    after.mail = state.mail := by
  cases halts with
  | closed | idle => rfl
  | blocked _ left =>
    rw [ActorState.mail, ActorState.mail, left]
    rfl
  | interrupted takes handled =>
    have same := desk_of_run (handled 0)
    rw [ActorState.desk] at same
    injection same with inbox same
    injection same with current same
    rw [ActorState.mail, ActorState.mail, inbox, current, takes.free,
      takes.waiting]
    rfl

theorem Halts.deeds {state after : ActorState} {status : Status}
    (halts : Halts state status after) :
    Deeds state after := by
  cases halts with
  | closed | idle => exact .refl
  | blocked _ left => exact .single (.putBack left)
  | interrupted takes handled =>
    have ends := handled_of_run (by exact rfl) (handled 0)
    exact .head (.takeUp takes.free takes.waiting)
      (ends.deeds ⟨rfl, Policy.settles_anyhow _⟩)

/-! ## The loop -/

/-- One turn of the loop handles one message, or it is the last one. -/
theorem ensures_turn (state : ActorState) :
    receiveNextMessage.Ensures bound state fun status after =>
      match status with
      | .success => ∃ message, Clears [message] state after
      | .failure => Halts state .success after
      | .running => Halts state .running after := by
  by_cases taken : ∃ message rest, Takes message rest state
  · rcases taken with ⟨message, rest, takes⟩
    obtain ⟨status, middle, ends, ran⟩ :=
      exists_handled (takeUp message rest state) rfl
    rw [ensures_receive_taken takes.opened takes.free takes.waiting,
      Tree.ensures_of_run (ran bound)]
    cases status with
    | success => exact ⟨message, .single takes ran⟩
    | failure => cases ends
    | running => exact .interrupted takes ran
  · apply (ensures_receiveNextMessage (Policy.settles_anyhow _)).mono
    intro status after turn
    cases turn with
    | closed shut => exact .closed shut
    | idle nothing => exact .idle nothing
    | blocked waiting left => exact .blocked waiting left
    | taken opened free waiting | interrupted opened free waiting =>
      exact (taken ⟨_, _, opened, free, waiting⟩).elim

/-- Some messages are handled and put away, and then the loop halts. -/
theorem ensures_reading {state : ActorState}
    (small : state.inbox.length < bound) :
    receiveMessages.Ensures bound state fun status after =>
      ∃ gone middle, Clears gone state middle ∧ Halts middle status after := by
  refine Spec.ensures_untilFailure (fun before => ∃ gone, Clears gone state before)
    (fun before => before.inbox.length) ?_ ⟨[], .nothing state⟩ small
  rintro before ⟨gone, clears⟩
  apply (ensures_turn before).mono
  intro status after turn
  cases status with
  | success =>
    rcases turn with ⟨message, one⟩
    refine ⟨⟨gone ++ [message], clears.append one⟩, ?_⟩
    have inbox := one.inbox
    rw [inbox, List.length_append, List.length_singleton]
    omega
  | failure | running => exact ⟨gone, before, clears, turn⟩

/-! ## What is left -/

/-- What a tick leaves of the mail when it began with a message in hand. -/
def leftOver (message : Message) (state : ActorState) : ActorState :=
  if state.inbox = [] then state
  else { state with current := none, inbox := message :: state.inbox }

/-- With a message in hand, nothing is handled. -/
theorem Clears.eq_of_current {gone : List Message} {message : Message}
    {before after : ActorState}
    (clears : Clears gone before after)
    (left : before.current = some message) :
    after = before := by
  cases clears with
  | nothing => rfl
  | cons takes =>
    rw [takes.free] at left
    cases left

/-- Handling messages does not close the report. -/
theorem Clears.keepsOpen {gone : List Message} {before after : ActorState}
    (clears : Clears gone before after)
    (opened : before.report ≠ .closed) :
    after.report ≠ .closed := by
  induction clears with
  | nothing => exact opened
  | cons takes handled _ ih =>
    exact ih ((handled_of_run (by exact rfl) (handled 0)).keepsOpen
      takes.opened)

/-- Neither does halting. -/
theorem Halts.keepsOpen {state after : ActorState} {status : Status}
    (halts : Halts state status after)
    (opened : state.report ≠ .closed) :
    after.report ≠ .closed := by
  cases halts with
  | closed | idle | blocked => exact opened
  | interrupted takes handled =>
    exact (handled_of_run (by exact rfl) (handled 0)).keepsOpen takes.opened

/-- Unless the loop is interrupted, it empties inbox and hand if nothing was in
hand before; otherwise what was in hand is left over. -/
theorem Halts.leaves {gone : List Message} {state middle after : ActorState}
    {status : Status}
    (opened : state.report ≠ .closed)
    (clears : Clears gone state middle)
    (halts : Halts middle status after)
    (settled : status ≠ .running) :
    (state.current = none → after.inbox = [] ∧ after.current = none) ∧
      ∀ message, state.current = some message →
        after = leftOver message state := by
  have openedThen := clears.keepsOpen opened
  have sameCurrent := clears.current
  constructor
  · intro free
    rw [free] at sameCurrent
    cases halts with
    | closed shut => exact (openedThen shut).elim
    | idle nothing => exact ⟨nothing, sameCurrent⟩
    | blocked _ left =>
      rw [left] at sameCurrent
      cases sameCurrent
    | interrupted => exact (settled rfl).elim
  · intro message left
    have same := clears.eq_of_current left
    subst same
    cases halts with
    | closed shut => exact (openedThen shut).elim
    | idle nothing => rw [leftOver, if_pos nothing]
    | blocked waiting other =>
      rw [left] at other
      cases other
      rw [leftOver, if_neg waiting]
    | interrupted => exact (settled rfl).elim

end Behavior

end Disclosure
