import Disclosure.Proofs.Protocol.Backdrop
import Disclosure.Proofs.Protocol.Laws

/-!
# What each part of the protocol leaves alone

The protocol has three trades.  Reading the mail does not touch the contacts of
an actor, telling others does not touch its mail, and all other work touches
neither.  None of them touches what makes up the office of the actor.
-/

namespace Disclosure

namespace ActorState

/-- Who the actor is, which policy it follows and what it has written down. -/
def office (state : ActorState) :
    String × Roles × Capabilities × Policy × Array Snapshot × UInt64 :=
  (state.name, state.roles, state.abilities, state.arbiter.policy, state.log,
    state.tick)

/-- The mail that waits, the message in hand and what was received so far. -/
def desk (state : ActorState) :
    List Message × Option Message × List MessageType :=
  (state.inbox, state.current, state.received)

/-- Two states that differ in nothing that a trade is about. -/
def Alike (before after : ActorState) : Prop :=
  after.office = before.office ∧ after.desk = before.desk ∧
    after.contacts = before.contacts

theorem alike_moveReport (target : ReportState) (state : ActorState) :
    Alike state (state.moveReport target) := by
  rw [moveReport_eq]
  exact ⟨rfl, rfl, rfl⟩

theorem alike_moveEmbargo (target : EmbargoState) (state : ActorState) :
    Alike state (state.moveEmbargo target) := by
  rw [moveEmbargo_eq]
  exact ⟨rfl, rfl, rfl⟩

theorem alike_setFlag (flag : CaseFlag) (state : ActorState) :
    Alike state (state.setFlag flag) := by
  rw [setFlag, moveCase_eq]
  exact ⟨rfl, rfl, rfl⟩

theorem alike_evaluatePriority (state : ActorState) :
    Alike state state.evaluatePriority := by
  obtain ⟨_, _, _, _, samePolicy, same⟩ := evaluatePriority_eq state
  rw [same]
  refine ⟨?_, rfl, rfl⟩
  rw [office, samePolicy]
  rfl

end ActorState

namespace Law

open ActorState

variable {γ : Type} {view : ActorState → γ}

/-- What is seen of like states is kept by all work but the two special trades. -/
theorem regular_keeping
    (sees : ∀ before after, Alike before after → view after = view before) :
    (keeping view).Regular where
  decide _ _ _ _ := sees _ _ ⟨rfl, rfl, rfl⟩
  moveReport target state := sees _ _ (alike_moveReport target state)
  moveEmbargo target state := sees _ _ (alike_moveEmbargo target state)
  setFlag flag state := sees _ _ (alike_setFlag flag state)
  broadcast _ _ := sees _ _ ⟨rfl, rfl, rfl⟩
  patient := .inl (lenient_keeping view)
  draw _ _ := sees _ _ ⟨rfl, rfl, rfl⟩
  evaluatePriority state := sees _ _ (alike_evaluatePriority state)
  assignIdentifier _ := sees _ _ ⟨rfl, rfl, rfl⟩

/-- Telling others keeps the office and the desk. -/
theorem outgoing_keeping :
    (keeping fun state => (office state, desk state)).Outgoing where
  inject _ _ _ := rfl
  choose state := by
    simp only [chooseRecipient]
    split <;> rfl
  strike state := by
    simp only [removeRecipient]
    split <;> rfl
  report state := by
    simp only [reportToRecipient]
    split <;> rfl
  brief state := by
    simp only [briefRecipient]
    split <;> rfl
  connect state := by
    simp only [connectRecipient]
    split <;> rfl

/-- Reading the mail keeps the office and the contacts. -/
theorem incoming_keeping :
    (keeping fun state => (office state, contacts state)).Incoming where
  pop state := by
    simp only [popMessage]
    split <;> rfl
  push state := by
    simp only [pushMessage]
    split <;> rfl
  note state := by
    simp only [noteMessage]
    split <;> rfl
  drop _ := rfl

end Law

namespace Behavior

open ActorState

/-- Looking for a vulnerability touches neither mail nor contacts. -/
theorem discover_keeps :
    discoverVulnerability.Obeys
      (.keeping fun state => (office state, desk state, contacts state)) := by
  apply obeys_discoverVulnerability
  apply (Law.regular_keeping _).toPlain
  rintro before after ⟨sameOffice, sameDesk, sameContacts⟩
  rw [sameOffice, sameDesk, sameContacts]

theorem receive_keeps :
    receiveMessages.Obeys
      (.keeping fun state => (office state, contacts state)) := by
  refine obeys_receiveMessages (Law.regular_keeping ?_).toPlain
    Law.incoming_keeping
  rintro before after ⟨sameOffice, _, sameContacts⟩
  rw [sameOffice, sameContacts]

/-- What comes after the mail does not touch it any more. -/
theorem afterMail_keeps {name : String} :
    (Spec.sequence name [reportManagement, embargoManagement]).Obeys
      (.keeping fun state => (office state, desk state)) := by
  have regular : (Law.keeping fun state =>
      (office state, desk state)).Regular := by
    apply Law.regular_keeping
    rintro before after ⟨sameOffice, sameDesk, _⟩
    rw [sameOffice, sameDesk]
  simp [obeys_reportManagement regular Law.outgoing_keeping,
    obeys_embargoManagement regular.toPlain]

end Behavior

end Disclosure
