import Disclosure.Proofs.Protocol.Proper
import Disclosure.Proofs.Protocol.Reading
import Disclosure.Proofs.Protocol.Root
import Disclosure.Proofs.Tree.Counts

/-!
# Mail is conserved

A tick takes messages off the front of the mail of an actor and leaves the rest
of it as it was.  Each message that is gone was handled to success in the same
tick, and the loop over the inbox ticks its child at most once for each message
that waits, and once more.
-/

namespace Disclosure

open ActorState

namespace Behavior

variable {bound : Nat}

/-! ## The whole protocol -/

/-- Among other deeds some messages are handled, and the rest of the mail is
kept. -/
structure Disposes (gone : List Message) (before after : ActorState) :
    Prop where
  handles : ∃ begun middle, Deeds before begun ∧ Clears gone begun middle ∧
    Deeds middle after
  mail : before.mail = gone ++ after.mail

theorem Disposes.nothing {before after : ActorState}
    (deeds : Deeds before after)
    (kept : after.mail = before.mail) :
    Disposes [] before after :=
  ⟨⟨before, before, .refl, .nothing before, deeds⟩, kept.symm⟩

/-- Deeds that leave the mail alone may come before and after. -/
theorem Disposes.amid {gone : List Message}
    {start before after stop : ActorState}
    (earlier : Deeds start before)
    (keptFirst : before.mail = start.mail)
    (disposes : Disposes gone before after)
    (later : Deeds after stop)
    (keptLast : stop.mail = after.mail) :
    Disposes gone start stop := by
  rcases disposes.handles with ⟨begun, middle, first, clears, last⟩
  refine ⟨⟨begun, middle, earlier.trans first, clears, last.trans later⟩, ?_⟩
  rw [← keptFirst, disposes.mail, keptLast]

theorem Disposes.of_reading {gone : List Message}
    {before middle after : ActorState} {status : Status}
    (clears : Clears gone before middle)
    (halts : Halts middle status after) :
    Disposes gone before after :=
  ⟨⟨before, middle, .refl, clears, halts.deeds⟩, by
    rw [clears.mail, halts.mail]⟩

/-- A tick of the protocol disposes of some mail, in whichever state it is. -/
theorem ensures_disposing {state : ActorState}
    (small : state.inbox.length < bound) :
    protocolRoot.Ensures bound state fun _ after =>
      ∃ gone, Disposes gone state after := by
  have logged : Deeds state state.takeSnapshot := .single (.snapshot state)
  rw [protocolRoot, Spec.ensures_sequence_cons, takeSnapshot,
    Spec.ensures_effect, if_pos rfl, Spec.ensures_sequence_cons,
    ensures_reportNotIn]
  split
  case isFalse => exact ⟨[], .nothing logged rfl⟩
  rw [Spec.ensures_sequence_cons]
  apply ((ensures_discover state.takeSnapshot).lawful discover_keeps).mono
  rintro status found ⟨⟨finds, sameInbox⟩, kept⟩
  have keptMail : found.mail = state.takeSnapshot.mail :=
    mail_of_desk (congrArg (fun view => view.2.1) kept)
  have sameMail : state.takeSnapshot.mail = state.mail := rfl
  rw [sameMail] at keptMail
  split
  case isFalse => exact ⟨[], .nothing (logged.trans finds) keptMail⟩
  rw [Spec.ensures_sequence_cons]
  have fits : found.inbox.length < bound := by
    rw [sameInbox]
    exact small
  apply (ensures_reading fits).mono
  rintro status read ⟨gone, middle, clears, halts⟩
  have disposes : Disposes gone found read := .of_reading clears halts
  split
  case isFalse =>
    exact ⟨gone, .amid (logged.trans finds) keptMail disposes .refl rfl⟩
  apply ((acting_afterMail read trivial).lawful afterMail_keeps).mono
  rintro status after ⟨⟨_, steps⟩, keptOn⟩
  exact ⟨gone, .amid (logged.trans finds) keptMail disposes steps
    (mail_of_desk (congrArg Prod.snd keptOn))⟩

/-! ## Loops -/

theorem loopsAnew_protocolRoot :
    protocolRoot.nodes.all (fun part => part.kind.loopsAnew) = true := by
  decide +kernel

theorem single_receiveMessages :
    receiveNextMessage.nodes.all (fun part => !part.kind.isLoop) = true := by
  decide +kernel

end Behavior

open Behavior

/-- Every bound that is larger than the inbox leads to the same end. -/
def BehaviorTree.Ends (tree : BehaviorTree Unit ActorState) (status : Status)
    (last : BehaviorTree Unit ActorState) : Prop :=
  ∀ bound, tree.board.inbox.length < bound →
    tree.tick bound = .ok (status, last)

/--
Mail is conserved: a tick of the loop over the inbox and a tick of the whole
protocol come to the same end for every bound that is larger than the inbox, from
every state and whatever is decided.  Some messages are gone from the front of
the mail; they were handled to success one after the other, each of them taken up
from the state that the one before has left.  What comes after them in the mail
is what is left of it.  The loop ticks its child once for each message that waits
at most, and once more.

In the whole protocol a loop that is not reached keeps its count, and `Within`
admits every count that has stayed.  There the limit rests on `Ends`: a bound of
one more than the messages that wait is enough, and no loop ticks its child more
often than the bound allows.
-/
theorem mail_is_conserved
    {reader actor : BehaviorTree Unit ActorState}
    (reads : reader.root.Hosts receiveMessages)
    (acts : actor.root.Hosts protocolRoot) :
    (∃ status last gone middle,
      reader.Ends status last ∧
      (∀ count ∈ last.root.loopCounts,
        count ≤ reader.board.inbox.length + 1) ∧
      reader.board.mail = gone ++ last.board.mail ∧
      Clears gone reader.board middle ∧ Halts middle status last.board) ∧
    (∃ status last gone begun middle,
      actor.Ends status last ∧
      List.Forall₂ (Within (actor.board.inbox.length + 1))
        actor.root.loopCounts last.root.loopCounts ∧
      actor.board.mail = gone ++ last.board.mail ∧
      Deeds actor.board begun ∧ Clears gone begun middle ∧
      Deeds middle last.board) := by
  constructor
  · obtain ⟨status, after, ran, gone, middle, clears, halts⟩ :=
      ensures_reading (Nat.lt_succ_self reader.board.inbox.length)
    obtain ⟨last, ticked, _, rfl⟩ :=
      BehaviorTree.tick_of_hosts reads proper_receiveMessages ran
    refine ⟨status, last, gone, middle, ?_, ?_, ?_, clears, halts⟩
    · intro bound larger
      exact BehaviorTree.tick_extends larger ticked
    · exact BehaviorTree.loopCounts_le reads single_receiveMessages ticked
    · rw [clears.mail, halts.mail]
  · obtain ⟨status, after, ran, gone, disposes⟩ :=
      ensures_disposing (Nat.lt_succ_self actor.board.inbox.length)
    obtain ⟨last, ticked, _, rfl⟩ :=
      BehaviorTree.tick_of_hosts acts proper_protocolRoot ran
    rcases disposes.handles with ⟨begun, middle, earlier, clears, later⟩
    refine ⟨status, last, gone, begun, middle, ?_, ?_, disposes.mail, earlier,
      clears, later⟩
    · intro bound larger
      exact BehaviorTree.tick_extends larger ticked
    · exact BehaviorTree.loopCounts_within acts loopsAnew_protocolRoot ticked

/-- A vendor with an error in hand from an earlier tick, and more mail waiting. -/
def interruptedVendor : ActorState :=
  { ActorState.new "vendor" (.ofList [.vendor]) (.ofSeed 0) with
    current := some (.broadcast .reportError "finder")
    inbox :=
      [.broadcast .reportSubmission "finder",
       .broadcast .embargoProposal "finder"] }

theorem mail_is_conserved_of_interruptedVendor :
    ∃ reader actor : BehaviorTree Unit ActorState,
      reader.root.Hosts receiveMessages ∧ actor.root.Hosts protocolRoot ∧
      reader.board = interruptedVendor ∧
      actor.board = interruptedVendor.dropMessage ∧
      (∃ status last gone middle,
        reader.Ends status last ∧
        (∀ count ∈ last.root.loopCounts,
          count ≤ reader.board.inbox.length + 1) ∧
        reader.board.mail = gone ++ last.board.mail ∧
        Clears gone reader.board middle ∧ Halts middle status last.board) ∧
      (∃ status last gone begun middle,
        actor.Ends status last ∧
        List.Forall₂ (Within (actor.board.inbox.length + 1))
          actor.root.loopCounts last.root.loopCounts ∧
        actor.board.mail = gone ++ last.board.mail ∧
        Deeds actor.board begun ∧ Clears gone begun middle ∧
        Deeds middle last.board) := by
  obtain ⟨reader, reads, interrupted⟩ :=
    BehaviorTree.exists_hosting proper_receiveMessages interruptedVendor
  obtain ⟨actor, acts, free⟩ :=
    BehaviorTree.exists_hosting proper_protocolRoot
      interruptedVendor.dropMessage
  exact ⟨reader, actor, reads, acts, interrupted, free,
    mail_is_conserved reads acts⟩

end Disclosure
