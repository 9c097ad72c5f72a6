import Disclosure.Proofs.Mail.Stranding
import Disclosure.Proofs.Protocol.Root

/-!
# What a tick writes down

The first step of a tick writes a row of the log and begins a new record of the
traffic.  Whatever comes after it leaves the log alone, notes the type of each
message that it sends, and adds to the record of answers.  If no decision is left
open, what leaves the inbox is noted as well, and nothing stays in hand.
-/

namespace Disclosure

namespace ActorState

/-- No decision that is on record was left open. -/
def Decided (state : ActorState) : Prop :=
  ∀ answer ∈ state.arbiter.record, answer.outcome ≠ .running

/-- The log, the clock, what was sent and what was answered. -/
def journal (state : ActorState) :
    Array Snapshot × UInt64 × List MessageType × Array Message ×
      Array Answer :=
  (state.log, state.tick, state.emitted, state.sent, state.arbiter.record)

/-- Log and clock stay as they are; the types of the messages that were sent are
noted, and answers are added to those on record. -/
structure Notes (before after : ActorState) : Prop where
  log : after.log = before.log
  tick : after.tick = before.tick
  emitted : ∃ types, after.emitted = before.emitted ++ types ∧
    after.sent.toList.map Message.type =
      before.sent.toList.map Message.type ++ types
  record : before.arbiter.record.toList <+: after.arbiter.record.toList

namespace Notes

variable {state before middle after : ActorState}

theorem of_journal (same : after.journal = before.journal) :
    Notes before after := by
  simp only [journal, Prod.mk.injEq] at same
  rcases same with ⟨log, tick, emitted, sent, record⟩
  refine ⟨log, tick, ⟨[], ?_, ?_⟩, [], ?_⟩
  · rw [emitted, List.append_nil]
  · rw [sent, List.append_nil]
  · rw [record, List.append_nil]

theorem trans (first : Notes before middle) (second : Notes middle after) :
    Notes before after where
  log := second.log.trans first.log
  tick := second.tick.trans first.tick
  emitted := by
    rcases first.emitted with ⟨earlier, emittedFirst, sentFirst⟩
    rcases second.emitted with ⟨later, emittedThen, sentThen⟩
    refine ⟨earlier ++ later, ?_, ?_⟩
    · rw [emittedThen, emittedFirst, List.append_assoc]
    · rw [sentThen, sentFirst, List.append_assoc]
  record := first.record.trans second.record

theorem send (message : Message) (state : ActorState) :
    Notes state (state.send message) where
  log := rfl
  tick := rfl
  emitted := ⟨[message.type], rfl, by simp [ActorState.send]⟩
  record := List.prefix_rfl

theorem decide (decision : Decision) (state : ActorState) :
    Notes state (state.decide decision).2 where
  log := rfl
  tick := rfl
  emitted := ⟨[], (List.append_nil _).symm, (List.append_nil _).symm⟩
  record := ⟨[⟨decision, (state.decide decision).1⟩], Array.toList_push.symm⟩

theorem evaluatePriority (state : ActorState) :
    Notes state state.evaluatePriority := by
  simp only [ActorState.evaluatePriority, setPriority_eq]
  have asked := decide ⟨"WillingToReprioritize", state.willingness⟩ state
  split
  · have askedTwice := asked.trans (decide ⟨"DeferReport", .usuallyFail⟩ _)
    split
    · exact askedTwice.trans (of_journal rfl)
    · exact askedTwice.trans (of_journal rfl)
  · exact asked

/-- What was decided in the end was decided before. -/
theorem decided (notes : Notes before after) (decided : Decided after) :
    Decided before := by
  intro answer among
  apply decided answer
  rw [← Array.mem_toList_iff] at among ⊢
  exact notes.record.mem among

end Notes

end ActorState

open ActorState

/-! ## All parts of the protocol keep notes -/

namespace Law

/-- Each step keeps notes of what it does. -/
def noting : Law ActorState where
  holds before _ after := Notes before after
  rest _ _ _ := .of_journal rfl
  trans first second := first.trans second
  settle _ notes _ := notes

theorem regular_noting : noting.Regular where
  decide name weight state _ := Notes.decide ⟨name, weight⟩ state
  moveReport target state := .of_journal (by rw [moveReport_eq]; rfl)
  moveEmbargo target state := .of_journal (by rw [moveEmbargo_eq]; rfl)
  setFlag flag state := .of_journal (by rw [setFlag, moveCase_eq]; rfl)
  broadcast type state := .send (.broadcast type state.name) state
  patient := .inl fun _ notes => notes
  draw _ _ := .of_journal rfl
  evaluatePriority state := .evaluatePriority state
  assignIdentifier _ := .of_journal rfl

theorem outgoing_noting : noting.Outgoing where
  inject _ _ _ := .of_journal rfl
  choose state := by
    simp only [chooseRecipient]
    split <;> exact Notes.of_journal rfl
  strike state := by
    simp only [removeRecipient]
    split <;> exact Notes.of_journal rfl
  report state := by
    simp only [reportToRecipient]
    split
    · exact Notes.of_journal rfl
    · have spent : Notes state { state with
          budget := if state.budget = 0 then 0 else state.budget - 1 } :=
        .of_journal rfl
      exact spent.trans (.send _ _)
  brief state := by
    simp only [briefRecipient]
    split <;> exact Notes.of_journal rfl
  connect state := by
    simp only [connectRecipient]
    split <;> exact Notes.of_journal rfl

theorem incoming_noting : noting.Incoming where
  pop state := by
    simp only [popMessage]
    split <;> exact Notes.of_journal rfl
  push state := by
    simp only [pushMessage]
    split <;> exact Notes.of_journal rfl
  note state := by
    simp only [noteMessage]
    split <;> exact Notes.of_journal rfl
  drop _ := .of_journal rfl

end Law

namespace Behavior

variable {bound : Nat} {state before after : ActorState}

/-! ## What is received -/

/-- Nothing stays in hand, and the beginning of the inbox is noted and gone. -/
def Receives (before after : ActorState) : Prop :=
  after.current = none ∧ ∃ gone, before.inbox = gone ++ after.inbox ∧
    after.received = before.received ++ gone.map Message.type

theorem Receives.nothing
    (free : state.current = none) :
    Receives state state :=
  ⟨free, [], rfl, (List.append_nil _).symm⟩

/-- Only the desk counts. -/
theorem Receives.amid {start stop : ActorState}
    (earlier : before.desk = start.desk)
    (receives : Receives before after)
    (later : stop.desk = after.desk) :
    Receives start stop := by
  simp only [desk, Prod.mk.injEq] at earlier later
  rcases receives with ⟨free, gone, inbox, received⟩
  refine ⟨later.2.1.trans free, gone, ?_, ?_⟩
  · rw [← earlier.1, inbox, later.1]
  · rw [later.2.2, received, earlier.2.2]

/-- The loop over the inbox notes what it takes away, unless something is left
open. -/
theorem receives_of_reading {gone : List Message} {middle : ActorState}
    {status : Status}
    (clears : Clears gone before middle)
    (halts : Halts middle status after)
    (settled : status ≠ .running)
    (free : before.current = none) :
    Receives before after := by
  have freeStill : middle.current = none := clears.current.trans free
  cases halts with
  | closed | idle => exact ⟨freeStill, gone, clears.inbox, clears.received⟩
  | blocked _ left =>
    rw [left] at freeStill
    cases freeStill
  | interrupted => exact (settled rfl).elim

/-- Where all was decided, a law about the record of answers lets nobody be
running. -/
theorem settled_of_decided {status : Status}
    (holds : Law.recording.holds before status after)
    (decided : Decided after) :
    status ≠ .running := by
  refine Law.settled_of_recording holds fun answer since => ?_
  exact decided answer (Array.mem_toList_iff.mp (List.mem_of_mem_drop since))

/-- A tick writes a row of the log and keeps notes of the rest; if all was
decided, it notes what it takes out of the inbox. -/
theorem ensures_notes (small : state.inbox.length < bound) :
    protocolRoot.Ensures bound state fun _ after =>
      Notes state.takeSnapshot after ∧
        (Decided after → state.current = none →
          Receives state.takeSnapshot after) := by
  rw [protocolRoot, Spec.ensures_sequence_cons, takeSnapshot,
    Spec.ensures_effect, if_pos rfl]
  have kept : ∀ {after : ActorState},
      after.desk = state.takeSnapshot.desk →
        state.current = none → Receives state.takeSnapshot after :=
    fun same free => .amid rfl (.nothing free) same
  refine (Tree.Ensures.lawful ?_ (obeys_afterSnapshot Law.regular_noting
    Law.outgoing_noting Law.incoming_noting)).mono
      fun _ _ ends => ⟨ends.2, ends.1⟩
  rw [Spec.ensures_sequence_cons, ensures_reportNotIn]
  split
  case isFalse => exact fun _ => kept rfl
  rw [Spec.ensures_sequence_cons]
  apply ((ensures_discover state.takeSnapshot).lawful discover_keeps).mono
  rintro status found ⟨⟨_, sameInbox⟩, same⟩
  have sameDesk : found.desk = state.takeSnapshot.desk :=
    congrArg (fun view => view.2.1) same
  split
  case isFalse => exact fun _ => kept sameDesk
  rw [Spec.ensures_sequence_cons]
  have fits : found.inbox.length < bound := by
    rw [sameInbox]
    exact small
  have records : receiveMessages.Obeys .recording :=
    obeys_receiveMessages Law.plain_recording Law.incoming_recording
  apply ((ensures_reading fits).lawful records).mono
  rintro status read ⟨⟨gone, middle, clears, halts⟩, recorded⟩
  have receives : status ≠ .running → state.current = none →
      Receives found read := by
    intro settled free
    have freeStill : found.current = none :=
      (congrArg (fun desk => desk.2.1) sameDesk).trans free
    exact receives_of_reading clears halts settled freeStill
  split
  case isFalse =>
    intro decided free
    exact Receives.amid sameDesk
      (receives (settled_of_decided recorded decided) free) rfl
  case isTrue succeeded =>
    apply ((acting_afterMail read trivial).lawful afterMail_keeps).mono
    rintro answer after ⟨_, keptOn⟩ _ free
    exact Receives.amid sameDesk
      (receives (by rw [succeeded]; decide) free) (congrArg Prod.snd keptOn)

end Behavior

end Disclosure
