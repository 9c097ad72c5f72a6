import Disclosure.Proofs.Protocol.Work

/-!
# Telling others

Looking for candidates, striking them and telling them are deeds that leave the
report where it stands.  A candidate that is told is briefed and taken into the
case at once, as one deed.
-/

namespace Disclosure

namespace Roster

/-- What was done to the first entry of a name is found under the name. -/
theorem find_modifyFirst {name : String} {change : Participant → Participant}
    (keepsName : ∀ candidate, candidate.name = name →
      (change candidate).name = name)
    (candidates : List Participant) :
    (modifyFirst name change candidates).find?
        (fun candidate => candidate.name == name) =
      (candidates.find? fun candidate => candidate.name == name).map
        change := by
  induction candidates with
  | nil => rfl
  | cons candidate candidates ih =>
    by_cases named : candidate.name = name
    · simp [modifyFirst, named, keepsName candidate named]
    · simp [modifyFirst, named, ih]

theorem potential?_modifyPotential {name : String}
    {change : Participant → Participant}
    (keepsName : ∀ candidate, candidate.name = name →
      (change candidate).name = name)
    (roster : Roster) :
    (roster.modifyPotential name change).potential? name =
      (roster.potential? name).map change :=
  find_modifyFirst keepsName roster.potential

end Roster

namespace ActorState

/-- Whoever is told knows of the embargo and of the public side of the case. -/
def briefed (state : ActorState) (candidate : Participant) : Participant :=
  { candidate with
    embargo := state.embargo, state := state.caseState.publicPart }

/-- The record of a newcomer: briefed, and with the report received. -/
def newcomer (state : ActorState) (candidate : Participant) : Participant :=
  { state.briefed candidate with report := .received }

theorem exists_of_recipient {state : ActorState} {candidate : Participant}
    (known : state.recipient? = some candidate) :
    ∃ name, state.notifying = some name ∧
      state.roster.potential? name = some candidate :=
  Option.bind_eq_some_iff.mp known

/-- The state after the report was sent to a candidate, at its cost. -/
def told (state : ActorState) (name : String) : ActorState :=
  { state with
    budget := if state.budget = 0 then 0 else state.budget - 1
  }.send (firstReport state.name name)

/-- The roster on which a candidate was briefed. -/
def briefRoster (state : ActorState) (name : String) : Roster :=
  state.roster.modifyPotential name state.briefed

/-- The state after a candidate was briefed. -/
def brief (state : ActorState) (name : String) : ActorState :=
  { state with roster := state.briefRoster name }

/-- The roster on which a newcomer has moved into the case. -/
def connectRoster (state : ActorState) (name : String)
    (candidate : Participant) : Roster :=
  (((state.briefRoster name).modifyPotential name fun _ =>
    state.newcomer candidate).engage name).2

section Telling

variable {state : ActorState} {name : String} {candidate : Participant}

theorem reportToRecipient_eq (chosen : state.notifying = some name) :
    state.reportToRecipient = (.success, state.told name) := by
  simp only [reportToRecipient, told, chosen]

theorem briefRecipient_eq
    (chosen : state.notifying = some name)
    (known : state.roster.potential? name = some candidate) :
    state.briefRecipient = (.success, state.brief name) := by
  simp only [briefRecipient, brief, recipient?, chosen, known,
    Option.bind_some]
  rfl

theorem connectRecipient_eq
    (chosen : state.notifying = some name)
    (known : state.roster.potential? name = some candidate) :
    state.connectRecipient =
      (.success,
        { state with
          notifying := none
          roster :=
            ((state.roster.modifyPotential name fun _ =>
              { candidate with report := .received }).engage name).2
          introduced :=
            state.introduced.push { candidate with report := .received } }) := by
  simp only [connectRecipient, recipient?, chosen, known, Option.bind_some]

theorem potential?_briefRoster
    (known : state.roster.potential? name = some candidate) :
    (state.briefRoster name).potential? name =
      some (state.briefed candidate) := by
  have keepsName : ∀ other : Participant, other.name = name →
      (state.briefed other).name = name := fun _ same => same
  rw [briefRoster, Roster.potential?_modifyPotential keepsName, known]
  rfl

/-- Telling a candidate takes it into the case, briefed. -/
theorem engage_eq
    (chosen : state.notifying = some name)
    (known : state.roster.potential? name = some candidate) :
    state.engage =
      { state.told name with
        notifying := none
        roster := state.connectRoster name candidate
        introduced := state.introduced.push (state.newcomer candidate) } := by
  have briefed : (state.told name).briefRecipient =
      (.success, (state.told name).brief name) :=
    briefRecipient_eq chosen known
  have renewed : ((state.told name).brief name).roster.potential? name =
      some (state.briefed candidate) :=
    potential?_briefRoster known
  have connected := connectRecipient_eq (by exact chosen) renewed
  rw [engage, reportToRecipient_eq chosen, briefed, connected]
  rfl

end Telling

end ActorState

namespace Behavior

open ActorState Course Deliberation

variable {bound : Nat}

/-! ## Looking for candidates -/

/-- Work by which an actor does not lose the means to reach others. -/
def reaching : Course ActorState where
  ready state :=
    prioritized state = true ∧ state.abilities.reportToOthers = true ∧
      state.budget ≠ 0
  move before after :=
    Works before after ∧ after.abilities = before.abilities ∧
      after.budget = before.budget
  answers _ := True
  stable := by
    rintro before after ⟨ready, able, affordable⟩
      ⟨works, sameAbilities, sameBudget⟩
    refine ⟨working.stable ready works, ?_, ?_⟩
    · rw [sameAbilities]
      exact able
    · rw [sameBudget]
      exact affordable
  success := trivial
  failure := trivial

theorem reaching_muses {before after : ActorState}
    (muses : Muses before after) :
    reaching.move before after := by
  refine ⟨works_muses muses, ?_⟩
  rcases muses.exists_eq with ⟨stream, arbiter, rfl⟩
  exact ⟨rfl, rfl⟩

theorem reaching_decision (name : String) (weight : Weight) :
    reaching.Covers bound (Spec.decision name weight) :=
  Course.covers_decision fun state _ =>
    ⟨trivial, reaching_muses (.ask state _)⟩

theorem reaching_identify {kind : String} {more : Weight} {roles : Roles}
    (wanted : (kind, roles) ∈ candidateKinds) :
    reaching.Covers bound (identify kind more roles) := by
  refine .forceSuccess (.andThen (reaching_decision _ _)
    (.andThen (Course.covers_effect ?_) .done))
  rintro state ⟨_, able, _⟩
  exact .single ⟨⟨.inject wanted able, rfl⟩, rfl, rfl⟩

theorem reaching_identifyParticipants :
    reaching.Covers bound identifyParticipants := by
  refine .orElse (reaching_decision _ _) (.orElse (.sequence ?_)
    .nothing)
  simp only [List.forall_mem_cons, List.not_mem_nil, false_imp_iff,
    implies_true, and_true]
  exact ⟨reaching_identify (by simp [candidateKinds]),
    reaching_identify (by simp [candidateKinds]),
    reaching_identify (by simp [candidateKinds])⟩

/-! ## Telling a candidate -/

/-- Somebody is being told, and it can be afforded. -/
def addressing (state : ActorState) : Bool :=
  state.recipient?.isSome && decide (state.budget ≠ 0)

/-- Deliberation about the candidate that is being told. -/
abbrev advising : Deliberation ActorState :=
  (deliberating true Works).given (fun _ _ _ => rfl : ∀ state stream arbiter,
    addressing { state with stream, arbiter } = addressing state) true

theorem exists_of_addressing {state : ActorState}
    (addressed : addressing state = true) :
    (∃ candidate, state.recipient? = some candidate) ∧ state.budget ≠ 0 := by
  simp only [addressing, Bool.and_eq_true, decide_eq_true_eq] at addressed
  exact ⟨Option.isSome_iff_exists.mp addressed.1, addressed.2⟩

theorem removeRecipient_report (state : ActorState) :
    state.removeRecipient.report = state.report := by
  rw [removeRecipient]
  split <;> rfl

theorem covers_pruneRecipients : advising.Covers bound pruneRecipients := by
  refine .think (.orElse (covers_question fun _ _ => Spec.ensures_condition _)
    (.orElse (covers_decision _ _) (covers_fallback_nil _)))
    (.last (covers_effect ?_))
  rintro before ⟨_, addressed⟩
  rcases exists_of_addressing addressed with ⟨⟨candidate, known⟩, _⟩
  exact ⟨.strike known, removeRecipient_report before⟩

/-- The embargo is one that a candidate can still be told about. -/
def tellable (state : ActorState) : Bool := state.embargo ≠ .exited

theorem learns_ensureOkToNotify :
    advising.Learns bound ensureOkToNotify tellable := by
  have open' : ∀ states : List EmbargoState, .exited ∉ states →
      ∀ state : ActorState, decide (state.embargo ∈ states) = true →
        tellable state = true := by
    intro states without state member
    apply decide_eq_true
    rintro exited
    exact without (exited ▸ of_decide_eq_true member)
  refine .orElse ?offered (.orElse ?inForce (learns_fallback_nil _ _))
  case offered =>
    exact (learns_question fun _ _ => ensures_embargoOpen).weaken
      (open' _ (by decide))
  case inForce =>
    refine ((learns_question fun _ _ => ensures_embargoInForce).weaken
      (open' _ (by decide))).andThink (fun _ _ _ => rfl) ?_
    exact .decide (covers_sequence_nil _)

/-- Reporting, briefing and connecting cannot fail for a known candidate. -/
theorem covers_notifyRecipient : advising.Covers bound notifyRecipient := by
  refine .learn learns_ensureOkToNotify (fun _ _ _ => rfl)
    (.decide (.last ?_))
  rintro before ⟨⟨_, addressed⟩, compatible⟩
  rcases exists_of_addressing addressed with ⟨⟨candidate, known⟩, affordable⟩
  rcases exists_of_recipient known with ⟨name, chosen, listed⟩
  have briefed : (before.told name).briefRecipient =
      (.success, (before.told name).brief name) :=
    briefRecipient_eq chosen listed
  have renewed : ((before.told name).brief name).roster.potential? name =
      some (before.briefed candidate) :=
    potential?_briefRoster listed
  have connected := connectRecipient_eq (by exact chosen) renewed
  have engages : Works before before.engage := by
    refine ⟨.engage known affordable (of_decide_eq_true compatible), ?_⟩
    rw [engage_eq chosen listed]
    rfl
  rw [Spec.ensures_sequence_cons, Spec.ensures_action,
    reportToRecipient_eq chosen, if_pos rfl, Spec.ensures_sequence_cons,
    Spec.ensures_action, briefed, if_pos rfl, Spec.ensures_sequence_singleton,
    Spec.ensures_action, connected]
  rw [engage, reportToRecipient_eq chosen, briefed, connected] at engages
  exact ends_of_acts engages

/-- Choosing a candidate succeeds only if the candidate is known then. -/
theorem chooseRecipient_known {state : ActorState}
    (succeeded : state.chooseRecipient.1 = .success) :
    state.chooseRecipient.2.recipient?.isSome = true := by
  cases known : state.recipient? with
  | some candidate => simp [chooseRecipient, known]
  | none =>
    simp only [chooseRecipient, known, Status.ofBool_eq_success] at succeeded ⊢
    rcases Option.isSome_iff_exists.mp succeeded with ⟨name, chosen⟩
    have listed := RandomStream.mem_of_choose chosen
    rcases List.mem_map.mp listed with ⟨candidate, member, rfl⟩
    rw [recipient?, chosen]
    simp only [Option.bind_some, Roster.potential?, List.find?_isSome]
    exact ⟨candidate, member, beq_self_eq_true _⟩

theorem chooseRecipient_works (state : ActorState) :
    Relation.ReflTransGen Works state state.chooseRecipient.2 ∧
      state.chooseRecipient.2.budget = state.budget := by
  cases known : state.recipient? with
  | some candidate =>
    simp only [chooseRecipient, known, and_true]
    exact .refl
  | none =>
    have deed := Deed.choose known
    simp only [chooseRecipient, known, and_true] at deed ⊢
    exact .single ⟨deed, rfl⟩

theorem works_of_ends {before after : ActorState} {status : Status}
    (ends : advising.Ends before status after) :
    Relation.ReflTransGen Works before after := by
  rcases ends with ⟨_, ponders | ⟨_, middle, ponders, works⟩⟩
  · exact Relation.ReflTransGen.mono (fun _ _ => works_muses) _ _ ponders
  · exact (Relation.ReflTransGen.mono (fun _ _ => works_muses) _ _
      ponders).tail works

/-- The candidate that was chosen is struck or told. -/
theorem ensures_processRecipient {name pruning : String} {state : ActorState}
    (affordable : state.budget ≠ 0) :
    (Spec.sequence name
      [.action "ChooseRecipient" ActorState.chooseRecipient,
       .fallback pruning [pruneRecipients, notifyRecipient]]).Ensures
        bound state fun _ after => Relation.ReflTransGen Works state after := by
  rcases chooseRecipient_works state with ⟨chooses, sameBudget⟩
  rw [Spec.ensures_sequence_cons, Spec.ensures_action]
  by_cases succeeded : state.chooseRecipient.1 = .success
  · rw [if_pos succeeded, Spec.ensures_sequence_singleton]
    have addressed : addressing state.chooseRecipient.2 = true := by
      simp [addressing, chooseRecipient_known succeeded, sameBudget,
        affordable]
    have covers : advising.Covers bound
        (Spec.fallback pruning [pruneRecipients, notifyRecipient]) :=
      .orElse covers_pruneRecipients
        (.orElse covers_notifyRecipient (covers_fallback_nil _))
    apply (covers _ ⟨Policy.settles_anyhow _, addressed⟩).mono
    intro status after ends
    exact chooses.trans (works_of_ends ends)
  · rw [if_neg succeeded]
    exact chooses

theorem ensures_notifyOthers {state : ActorState}
    (affordable : state.budget ≠ 0) :
    notifyOthers.Ensures bound state fun _ after =>
      Relation.ReflTransGen Works state after := by
  have asked := works_muses
    (.ask state ⟨"NotificationsComplete", .uniformSucceedFail⟩)
  rw [notifyOthers, Spec.ensures_fallback_cons, Spec.ensures_decision]
  split
  case isFalse => exact .single asked
  rw [Spec.ensures_fallback_singleton]
  apply (ensures_processRecipient (by exact affordable)).mono
  intro status after path
  exact path.head asked

/-- Reaching out to others is work, as far as the budget allows. -/
theorem working_reportToOthers : working.Covers bound reportToOthers := by
  refine .guarded (fun _ _ => Spec.ensures_condition _) ?_
  intro state ready able
  rw [Spec.ensures_sequence_singleton, Spec.ensures_fallback_cons,
    Spec.ensures_condition]
  by_cases spent : state.budget = 0
  · simp only [spent, decide_true, Status.ofBool, reduceCtorEq, if_false]
    exact ⟨trivial, .refl⟩
  rw [decide_eq_false spent, if_pos (by rfl), Spec.ensures_fallback_singleton,
    Spec.ensures_sequence_cons]
  have means : reaching.ready state := ⟨ready, able, spent⟩
  apply (reaching_identifyParticipants state means).mono
  rintro status middle ⟨_, path⟩
  have works : working.Path state middle :=
    Relation.ReflTransGen.mono (fun _ _ moves => moves.1) _ _ path
  by_cases succeeded : status = .success
  · rw [if_pos succeeded, Spec.ensures_sequence_singleton]
    apply (ensures_notifyOthers (Path.ready path means).2.2).mono
    intro answer after further
    exact ⟨trivial, works.trans further⟩
  · rw [if_neg succeeded]
    exact ⟨trivial, works⟩

end Behavior

end Disclosure
