import Disclosure.Proofs.Protocol.Frame
import Disclosure.Proofs.Protocol.Outreach

/-!
# What an actor sends

All that an actor sends, it sends under its own name, and what was sent once
stays sent.  Four deeds are about candidates; any other deed tells everybody,
if anybody, and leaves the contacts of the actor alone.
-/

namespace Disclosure.ActorState

/-- News of some types was sent to everybody, and to nobody in particular. -/
structure Speaks (before after : ActorState) : Prop where
  name : after.name = before.name
  contacts : after.contacts = before.contacts
  sent : ∃ types : List MessageType, after.sent.toList =
    before.sent.toList ++
      types.map fun type => Message.broadcast type before.name

/-- What one does about candidates. -/
inductive Approaches : ActorState → ActorState → Prop
  | inject {state : ActorState} {kind : String} {roles : Roles}
      (wanted : (kind, roles) ∈ candidateKinds) :
    Approaches state (state.injectCandidate kind roles)
  | choose {state : ActorState} (nobody : state.recipient? = none) :
    Approaches state state.chooseRecipient.2
  | strike {state : ActorState} {candidate : Participant}
      (known : state.recipient? = some candidate) :
    Approaches state state.removeRecipient
  | engage {state : ActorState} {candidate : Participant}
      (known : state.recipient? = some candidate)
      (affordable : state.budget ≠ 0)
      (compatible : state.embargo ≠ .exited) :
    Approaches state state.engage

namespace Speaks

theorem trans {before middle after : ActorState}
    (first : Speaks before middle)
    (second : Speaks middle after) :
    Speaks before after where
  name := second.name.trans first.name
  contacts := second.contacts.trans first.contacts
  sent := by
    rcases first.sent with ⟨earlier, sentFirst⟩
    rcases second.sent with ⟨later, sentThen⟩
    refine ⟨earlier ++ later, ?_⟩
    rw [sentThen, sentFirst, first.name, List.map_append, List.append_assoc]

/-- Nothing at all was sent. -/
theorem silent {before after : ActorState}
    (name : after.name = before.name)
    (contacts : after.contacts = before.contacts)
    (sent : after.sent = before.sent) :
    Speaks before after :=
  ⟨name, contacts, [], by rw [sent, List.map_nil, List.append_nil]⟩

theorem refl (state : ActorState) : Speaks state state :=
  .silent rfl rfl rfl

/-- To handle a message is to speak at most. -/
theorem of_aside {before after : ActorState} (aside : Aside before after) :
    Speaks before after := by
  rcases aside.news with ⟨types, sends, _⟩
  exact ⟨sends.name, aside.contacts, types, sends.sent⟩

theorem broadcast (type : MessageType) (state : ActorState) :
    Speaks state (state.broadcast type) :=
  ⟨rfl, rfl, [type], (Sends.broadcast type state).sent⟩

/-- To go to another state of the report and to say so. -/
theorem declare (target : ReportState) (type : MessageType)
    (state : ActorState) :
    Speaks state ((state.moveReport target).broadcast type) := by
  have moved : Speaks state (state.moveReport target) := by
    rw [moveReport_eq]
    exact .silent rfl rfl rfl
  exact moved.trans (broadcast type _)

/-- To set a flag of the case and to say so. -/
theorem announce (flag : CaseFlag) (type : MessageType) (state : ActorState) :
    Speaks state ((state.setFlag flag).broadcast type) :=
  (of_aside (aside_setFlag state flag)).trans (broadcast type _)

theorem witness (threat : Threat) (state : ActorState) :
    Speaks state (state.witness threat) := by
  cases threat with
  | attack => exact announce .attacksObserved .attacksObserved state
  | exploit =>
    exact (of_aside (aside_goPublic state)).trans
      (announce .exploitPublic .exploitPublished _)
  | publicReport => exact announce .publicAware .publicAware state

/-! ## Prioritization -/

theorem decide (decision : Decision) (state : ActorState) :
    Speaks state (state.decide decision).2 :=
  .silent rfl rfl rfl

theorem putOff (state : ActorState) : Speaks state state.putOff := by
  simp only [ActorState.putOff]
  split
  · exact refl state
  · have asked := decide deferDecision state
    split
    · exact asked.trans (declare .deferred .reportDeferred _)
    · exact asked

theorem prioritize (state : ActorState) : Speaks state state.prioritize := by
  have considered : Speaks state state.evaluatePriority := by
    obtain ⟨_, _, _, _, _, same⟩ := evaluatePriority_eq state
    rw [same]
    exact .silent rfl rfl rfl
  simp only [ActorState.prioritize]
  split
  · exact considered.trans (putOff _)
  split
  · exact considered
  have asked := considered.trans (decide acceptDecision _)
  split
  · exact asked.trans (declare .accepted .reportAccepted _)
  · exact asked.trans (putOff _)
  · exact asked

end Speaks

/-! ## Deeds -/

/-- Whoever does something about candidates is able to reach out to others, knows
a candidate already, or looks for one that is known. -/
def MayApproach (before after : ActorState) : Prop :=
  before.abilities.reportToOthers = true ∨
    (∃ candidate, before.recipient? = some candidate) ∨
    after = before.chooseRecipient.2

theorem Deed.speaks_or_approaches {before after : ActorState}
    (deed : Deed before after) :
    Speaks before after ∨
      Approaches before after ∧ MayApproach before after := by
  cases deed with
  | inject wanted able => exact .inr ⟨.inject wanted, .inl able⟩
  | choose nobody => exact .inr ⟨.choose nobody, .inr (.inr rfl)⟩
  | strike known => exact .inr ⟨.strike known, .inr (.inl ⟨_, known⟩)⟩
  | engage known affordable compatible =>
    exact .inr ⟨.engage known affordable compatible, .inr (.inl ⟨_, known⟩)⟩
  | muse muses => exact .inl (.of_aside (aside_muses muses))
  | snapshot | takeUp | putBack | finish | assign =>
    exact .inl (.silent rfl rfl rfl)
  | acknowledge | complain | inquire => exact .inl (.broadcast _ before)
  | discover => exact .inl (.of_aside (aside_discover before))
  | takeSubmission => exact .inl (.of_aside (aside_takeSubmission before))
  | follow => exact .inl (.of_aside (aside_moveEmbargo before _))
  | hearNews _ _ ends =>
    exact .inl (.of_aside ((aside_hearNews before _).trans ends.aside))
  | witness threat _ ends =>
    exact .inl ((Speaks.witness threat before).trans (.of_aside ends.aside))
  | announce move => exact .inl (.of_aside (aside_announce before move))
  | validate | invalidate | close => exact .inl (.declare _ _ before)
  | prioritize => exact .inl (.prioritize before)
  | createFix | deployFix | publish => exact .inl (.announce _ _ before)

/-- What is not about candidates is told to everybody, if to anybody. -/
theorem Deed.speaks {before after : ActorState} (deed : Deed before after) :
    Speaks before after ∨ Approaches before after :=
  deed.speaks_or_approaches.imp_right And.left

/-- Some messages were sent, all of them under the actor's own name. -/
structure Signs (messages : List Message) (before after : ActorState) :
    Prop where
  name : after.name = before.name
  sent : after.sent.toList = before.sent.toList ++ messages
  signed : ∀ message ∈ messages, message.sender = before.name

theorem Signs.trans {earlier later : List Message}
    {before middle after : ActorState}
    (first : Signs earlier before middle)
    (second : Signs later middle after) :
    Signs (earlier ++ later) before after where
  name := second.name.trans first.name
  sent := by rw [second.sent, first.sent, List.append_assoc]
  signed := by
    intro message among
    rcases List.mem_append.mp among with earlier | later
    · exact first.signed message earlier
    · exact (second.signed message later).trans first.name

theorem Signs.nothing {before after : ActorState}
    (name : after.name = before.name)
    (sent : after.sent = before.sent) :
    Signs [] before after :=
  ⟨name, by rw [sent, List.append_nil], by simp⟩

theorem Speaks.signs {before after : ActorState}
    (speaks : Speaks before after) :
    ∃ messages, Signs messages before after := by
  rcases speaks.sent with ⟨types, sent⟩
  refine ⟨_, speaks.name, sent, ?_⟩
  intro message among
  rcases List.mem_map.mp among with ⟨type, _, rfl⟩
  rfl

theorem Approaches.signs {before after : ActorState}
    (approaches : Approaches before after) :
    ∃ messages, Signs messages before after := by
  cases approaches with
  | inject => exact ⟨[], .nothing rfl rfl⟩
  | choose nobody =>
    simp only [chooseRecipient, nobody]
    exact ⟨[], .nothing rfl rfl⟩
  | strike =>
    rw [removeRecipient]
    split
    · exact ⟨[], .nothing rfl rfl⟩
    · exact ⟨[], .nothing rfl rfl⟩
  | engage known =>
    rcases exists_of_recipient known with ⟨name, chosen, listed⟩
    rw [engage_eq chosen listed]
    refine ⟨[firstReport before.name name], rfl, ?_, ?_⟩
    · exact Array.toList_push
    · intro message among
      rw [List.mem_singleton.mp among]
      rfl

/-- Whatever an actor does, it signs what it sends. -/
theorem Deeds.signs {before after : ActorState} (deeds : Deeds before after) :
    ∃ messages, Signs messages before after := by
  induction deeds with
  | refl => exact ⟨[], .nothing rfl rfl⟩
  | tail _ deed ih =>
    rcases ih with ⟨earlier, first⟩
    obtain ⟨later, second⟩ : ∃ messages, Signs messages _ _ := by
      rcases deed.speaks with speaks | approaches
      · exact speaks.signs
      · exact approaches.signs
    exact ⟨earlier ++ later, first.trans second⟩

end Disclosure.ActorState
