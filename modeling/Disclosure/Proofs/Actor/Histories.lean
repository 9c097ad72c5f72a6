import Disclosure.Proofs.Protocol.Backdrop
import Disclosure.Proofs.Simulation.LockStep
import Mathlib.Data.List.Chain

/-!
# Histories are legal paths

Each axis of an actor has a history that grows with every move and with nothing
else.  Whatever a tick does, its moves along an axis are legal ones: the states of
the report lead to each other, the embargo makes the moves that embargoes make,
and the flags of the case are never taken back.  So the history of every run is a
path from where the actor began to where it is, and nothing comes after a state
that leads nowhere.
-/

namespace Disclosure

/-! ## Legal moves -/

/-- A report can be moved from one state to another one. -/
def ReportState.Leads (before after : ReportState) : Prop :=
  before ≠ after ∧ before ∈ after.allowedFrom

/-- There is a kind of move that changes one state of an embargo to another. -/
def EmbargoState.Leads (before after : EmbargoState) : Prop :=
  before ≠ after ∧
    ∃ move : EmbargoMove, before ∈ move.starts ∧ after = move.target

/-- Flags are added to a case, and none is taken back. -/
def CaseState.Leads (before after : CaseState) : Prop :=
  before ≠ after ∧ ∀ flag, before.has flag = true → after.has flag = true

theorem ReportState.closed_leads_nowhere (after : ReportState) :
    ¬ Leads .closed after := by
  rintro ⟨_, allowed⟩
  cases after <;> revert allowed <;> decide

theorem EmbargoState.exited_leads_nowhere (after : EmbargoState) :
    ¬ Leads .exited after := by
  rintro ⟨_, move, starts, _⟩
  cases move <;> revert starts <;> decide

/-! ## Histories -/

section Histories

variable {σ : Type} {leads : σ → σ → Prop}

/-- One move along an axis is written at the end of its history. -/
inductive Advance (leads : σ → σ → Prop) : σ × List σ → σ × List σ → Prop
  | move {now next : σ} {history : List σ} (legal : leads now next) :
    Advance leads (now, history) (next, history ++ [next])

/-- Any number of moves along an axis, each of them written down. -/
abbrev Advances (leads : σ → σ → Prop) : σ × List σ → σ × List σ → Prop :=
  Relation.ReflTransGen (Advance leads)

/-- The history is a path from a beginning to where the axis stands now. -/
structure Recorded (leads : σ → σ → Prop) (first : σ) (axis : σ × List σ) :
    Prop where
  begins : axis.2.head? = some first
  chain : axis.2.IsChain leads
  ends : axis.2.getLast? = some axis.1

namespace Recorded

theorem beginning (leads : σ → σ → Prop) (first : σ) :
    Recorded leads first (first, [first]) :=
  ⟨rfl, .singleton first, rfl⟩

theorem advance {first : σ} {before after : σ × List σ}
    (recorded : Recorded leads first before)
    (moves : Advance leads before after) :
    Recorded leads first after := by
  rcases moves with ⟨legal⟩
  refine ⟨?_, ?_, by simp⟩
  · simp [recorded.begins]
  · apply recorded.chain.append (.singleton _)
    intro last isLast next isNext
    rw [recorded.ends] at isLast
    rw [← Option.mem_some_iff.mp isLast, ← Option.mem_some_iff.mp isNext]
    exact legal

theorem advances {first : σ} {before after : σ × List σ}
    (recorded : Recorded leads first before)
    (path : Advances leads before after) :
    Recorded leads first after := by
  induction path with
  | refl => exact recorded
  | tail _ moves ih => exact ih.advance moves

end Recorded

/-- In a path, what leads nowhere comes last. -/
theorem not_mem_dropLast {history : List σ} {last : σ}
    (chain : history.IsChain leads)
    (final : ∀ next, ¬ leads last next) :
    last ∉ history.dropLast := by
  induction chain with
  | nil => simp
  | singleton => simp
  | cons_cons legal _ ih =>
    intro among
    rcases List.mem_cons.mp among with rfl | among
    · exact final _ legal
    · exact ih among

end Histories

/-! ## What deeds write down -/

namespace ActorState

/-- Where the report stands, with its history. -/
def reportAxis (state : ActorState) : ReportState × List ReportState :=
  (state.report, state.reportHistory)

/-- Where the embargo stands, with its history. -/
def embargoAxis (state : ActorState) : EmbargoState × List EmbargoState :=
  (state.embargo, state.embargoHistory)

/-- Where the case stands, with its history. -/
def caseAxis (state : ActorState) : CaseState × List CaseState :=
  (state.caseState, state.caseHistory)

/-- All moves were legal and written down, and no newcomer was told of an embargo
that is over. -/
structure Progress (before after : ActorState) : Prop where
  report : Advances ReportState.Leads before.reportAxis after.reportAxis
  embargo : Advances EmbargoState.Leads before.embargoAxis after.embargoAxis
  caseState : Advances CaseState.Leads before.caseAxis after.caseAxis
  told : ∀ record ∈ after.introduced,
    record ∈ before.introduced ∨ record.embargo ≠ .exited

namespace Progress

theorem of_standing {before after : ActorState}
    (same : after.standing = before.standing) :
    Progress before after := by
  simp only [standing, backdrop, Prod.mk.injEq] at same
  obtain ⟨⟨report, reports⟩, ⟨embargo, embargoes⟩, ⟨caseState, cases⟩, told, _⟩ :=
    same
  constructor
  · rw [reportAxis, reportAxis, report, reports]
  · rw [embargoAxis, embargoAxis, embargo, embargoes]
  · rw [caseAxis, caseAxis, caseState, cases]
  · rw [told]
    exact fun _ => .inl

theorem refl (state : ActorState) : Progress state state :=
  .of_standing rfl

theorem trans {before middle after : ActorState}
    (first : Progress before middle)
    (second : Progress middle after) :
    Progress before after where
  report := first.report.trans second.report
  embargo := first.embargo.trans second.embargo
  caseState := first.caseState.trans second.caseState
  told record among := by
    rcases second.told record among with earlier | unfinished
    · exact first.told record earlier
    · exact .inr unfinished

theorem broadcast {before after : ActorState}
    (progress : Progress before after) (type : MessageType) :
    Progress before (after.broadcast type) :=
  progress.trans (.of_standing rfl)

/-! ### Single moves -/

theorem moveReport {state : ActorState} {target : ReportState}
    (allowed : state.report = target ∨ state.report ∈ target.allowedFrom) :
    Progress state (state.moveReport target) := by
  by_cases stays : state.report = target
  · rw [← stays, moveReport_self]
    exact .refl state
  · have leads : state.report.Leads target :=
      ⟨stays, allowed.resolve_left stays⟩
    rw [moveReport_eq, if_neg stays]
    exact ⟨.single ⟨leads⟩, .refl, .refl, fun _ => .inl⟩

theorem moveEmbargo {state : ActorState} {move : EmbargoMove}
    (starts : state.embargo ∈ move.starts) :
    Progress state (state.moveEmbargo move.target) := by
  by_cases stays : state.embargo = move.target
  · rw [← stays, moveEmbargo_self]
    exact .refl state
  · have leads : state.embargo.Leads move.target := ⟨stays, move, starts, rfl⟩
    rw [moveEmbargo_eq, if_neg stays]
    exact ⟨.refl, .single ⟨leads⟩, .refl, fun _ => .inl⟩

theorem moveCase {state : ActorState} {target : CaseState}
    (kept : ∀ flag, state.caseState.has flag = true →
      target.has flag = true) :
    Progress state (state.moveCase target) := by
  by_cases stays : state.caseState = target
  · have same : state.moveCase target = state := if_pos stays
    rw [same]
    exact .refl state
  · rw [moveCase_eq, if_neg stays]
    exact ⟨.refl, .refl, .single ⟨stays, kept⟩, fun _ => .inl⟩

theorem setFlag (state : ActorState) (flag : CaseFlag) :
    Progress state (state.setFlag flag) :=
  moveCase fun other has => by simp [has]

theorem announce {state : ActorState} {move : EmbargoMove}
    (starts : state.embargo ∈ move.starts) :
    Progress state (state.announce move) :=
  (moveEmbargo starts).broadcast move.announcement

/-! ### Moves that belong together -/

theorem learn (state : ActorState) : Progress state state.learn := by
  rw [ActorState.learn]
  split
  · exact (setFlag state .vendorAware).broadcast _
  · exact .refl state

theorem discover {state : ActorState} (nothing : state.report = .start) :
    Progress state state.discover := by
  have received : Progress state (state.moveReport .received) :=
    moveReport (.inr (by rw [nothing]; decide))
  exact (received.broadcast .reportSubmission).trans (learn _)

theorem takeSubmission (state : ActorState) :
    Progress state state.takeSubmission := by
  rw [ActorState.takeSubmission]
  split
  case isTrue nothing =>
    have received : Progress state (state.moveReport .received) :=
      moveReport (.inr (by rw [nothing]; decide))
    exact received.trans (learn _)
  case isFalse => exact learn state

theorem goPublic (state : ActorState) : Progress state state.goPublic := by
  rw [ActorState.goPublic]
  split
  · exact .refl state
  · exact (setFlag state .publicAware).broadcast _

theorem hearNews (state : ActorState) (type : MessageType) :
    Progress state (state.hearNews type) := by
  rw [hearNews.eq_def]
  split
  · exact setFlag state _
  · exact (setFlag state _).trans (goPublic _)
  · exact setFlag state _
  · exact .refl state

theorem witness (state : ActorState) (threat : Threat) :
    Progress state (state.witness threat) := by
  cases threat with
  | attack => exact (setFlag state _).broadcast _
  | exploit => exact ((goPublic state).trans (setFlag _ _)).broadcast _
  | publicReport => exact (setFlag state _).broadcast _

theorem ends {before after : ActorState} (ends : EndsEmbargo before after) :
    Progress before after := by
  cases ends with
  | nothing => exact .refl before
  | withdraw proposed => exact announce (by rw [proposed]; decide)
  | terminate inForce =>
    have asked : Progress before (before.decide exitDecision).2 :=
      .of_standing (standing_decide exitDecision before)
    exact asked.trans (announce inForce)
  | refused => exact .of_standing (standing_decide exitDecision before)

/-! ### Prioritization -/

theorem putOff {state : ActorState}
    (decidable : state.report ∈ [.valid, .deferred, .accepted]) :
    Progress state state.putOff := by
  have asked : Progress state (state.decide deferDecision).2 :=
    .of_standing (standing_decide deferDecision state)
  have allowed : (state.decide deferDecision).2.report = .deferred ∨
      (state.decide deferDecision).2.report ∈
        ReportState.deferred.allowedFrom := by
    change state.report = _ ∨ state.report ∈ _
    revert decidable
    cases state.report <;> decide
  simp only [ActorState.putOff]
  split
  · exact .refl state
  · split
    · exact (asked.trans (moveReport allowed)).broadcast .reportDeferred
    · exact asked

theorem prioritize {state : ActorState}
    (decidable : state.report ∈ [.valid, .deferred, .accepted]) :
    Progress state state.prioritize := by
  have considered : Progress state state.evaluatePriority :=
    .of_standing (standing_evaluatePriority state)
  have same : state.evaluatePriority.report = state.report :=
    congrArg (fun standing => standing.1.1) (standing_evaluatePriority state)
  have asked : Progress state
      (state.evaluatePriority.decide acceptDecision).2 :=
    considered.trans (.of_standing (standing_decide acceptDecision _))
  have sameThen :
      (state.evaluatePriority.decide acceptDecision).2.report =
        state.report := same
  have allowed : state.report = .accepted ∨
      state.report ∈ ReportState.accepted.allowedFrom := by
    revert decidable
    cases state.report <;> decide
  simp only [ActorState.prioritize]
  split
  · exact considered.trans (putOff (same ▸ decidable))
  split
  · exact considered
  split
  · exact (asked.trans (moveReport (sameThen ▸ allowed))).broadcast _
  · exact asked.trans (putOff (sameThen ▸ decidable))
  · exact asked

/-! ### Outreach -/

/-- A newcomer is told of the embargo as it stands, which is not over. -/
theorem engage {state : ActorState} {candidate : Participant}
    (known : state.recipient? = some candidate)
    (compatible : state.embargo ≠ .exited) :
    Progress state state.engage := by
  rcases exists_of_recipient known with ⟨name, chosen, listed⟩
  rw [engage_eq chosen listed]
  refine ⟨.refl, .refl, .refl, ?_⟩
  intro record among
  rcases Array.mem_push.mp among with before | rfl
  · exact .inl before
  · exact .inr compatible

end Progress

/-! ### Deeds -/

/-- Every deed writes down what it moves, and moves legally. -/
theorem Deed.progress {before after : ActorState}
    (deed : Deed before after) :
    Progress before after := by
  cases deed with
  | muse muses => exact .of_standing (standing_muses muses)
  | snapshot | takeUp | putBack | finish | acknowledge | complain | inquire
  | inject | assign => exact .of_standing rfl
  | discover _ nothing => exact .discover nothing
  | takeSubmission => exact .takeSubmission before
  | follow _ follows =>
    exact .moveEmbargo (EmbargoMove.following_starts follows).1
  | hearNews _ _ ends => exact (Progress.hearNews before _).trans (.ends ends)
  | witness threat _ ends =>
    exact (Progress.witness before threat).trans (.ends ends)
  | announce move starts => exact .announce starts
  | validate undecided =>
    exact (Progress.moveReport (.inr undecided)).broadcast _
  | invalidate undecided =>
    have allowed : before.report = .invalid ∨
        before.report ∈ ReportState.invalid.allowedFrom := by
      revert undecided
      cases before.report <;> decide
    exact (Progress.moveReport allowed).broadcast _
  | close closable => exact (Progress.moveReport (.inr closable)).broadcast _
  | prioritize decidable => exact .prioritize decidable
  | createFix | deployFix | publish =>
    exact (Progress.setFlag before _).broadcast _
  | choose => exact .of_standing (standing_chooseRecipient before)
  | strike => exact .of_standing (standing_removeRecipient before)
  | engage known _ compatible => exact .engage known compatible

/-- What progress keeps is an invariant. -/
theorem Invariant.of_progress {property : ActorState → Prop}
    (kept : ∀ before after, property before → Progress before after →
      property after) :
    Invariant property where
  deliver state message holds :=
    kept state (state.deliver message) holds (.of_standing rfl)
  clock state holds := kept state state.clocked holds (.of_standing rfl)
  clearRecord state holds := kept state _ holds (.of_standing rfl)
  deed before after holds deed := kept before after holds deed.progress

/-! ## Chronicles -/

/-- No newcomer was told of an embargo that is over. -/
def Discreet (state : ActorState) : Prop :=
  ∀ record ∈ state.introduced, record.embargo ≠ .exited

theorem Discreet.progress {before after : ActorState}
    (discreet : Discreet before)
    (progress : Progress before after) :
    Discreet after := by
  intro record among
  rcases progress.told record among with earlier | unfinished
  · exact discreet record earlier
  · exact unfinished

/-- The histories of an actor who has been in the case from the beginning. -/
structure Chronicled (state : ActorState) : Prop where
  report : Recorded ReportState.Leads .start state.reportAxis
  embargo : Recorded EmbargoState.Leads .noEmbargo state.embargoAxis
  caseState : Recorded CaseState.Leads .initial state.caseAxis

theorem Chronicled.progress {before after : ActorState}
    (chronicled : Chronicled before)
    (progress : Progress before after) :
    Chronicled after where
  report := chronicled.report.advances progress.report
  embargo := chronicled.embargo.advances progress.embargo
  caseState := chronicled.caseState.advances progress.caseState

/-- The history of an embargo that was handed over: a path from what was told,
with the usual beginning before it. -/
structure HandedOver (told : EmbargoState)
    (axis : EmbargoState × List EmbargoState) : Prop where
  begins : axis.2 = .noEmbargo :: axis.2.tail
  goesOn : Recorded EmbargoState.Leads told (axis.1, axis.2.tail)

theorem HandedOver.advance {told : EmbargoState}
    {before after : EmbargoState × List EmbargoState}
    (handedOver : HandedOver told before)
    (moves : Advance EmbargoState.Leads before after) :
    HandedOver told after := by
  cases moves with
  | @move now next history legal =>
    have begins : history = .noEmbargo :: history.tail := handedOver.begins
    rw [begins]
    exact ⟨rfl, handedOver.goesOn.advance ⟨legal⟩⟩

theorem HandedOver.advances {told : EmbargoState}
    {before after : EmbargoState × List EmbargoState}
    (handedOver : HandedOver told before)
    (path : Advances EmbargoState.Leads before after) :
    HandedOver told after := by
  induction path with
  | refl => exact handedOver
  | tail _ moves ih => exact ih.advance moves

/-- The histories of an actor who has joined the case later: there may be an
embargo that was handed over.  The flags that were handed over are more than none,
so there is nothing special about them. -/
structure Joined (state : ActorState) : Prop where
  report : Recorded ReportState.Leads .start state.reportAxis
  embargo : Recorded EmbargoState.Leads .noEmbargo state.embargoAxis ∨
    ∃ told ∉ [EmbargoState.noEmbargo, .exited],
      HandedOver told state.embargoAxis
  caseState : Recorded CaseState.Leads .initial state.caseAxis

theorem Joined.progress {before after : ActorState}
    (joined : Joined before)
    (progress : Progress before after) :
    Joined after where
  report := joined.report.advances progress.report
  embargo := by
    rcases joined.embargo with recorded | ⟨told, ongoing, handedOver⟩
    · exact .inl (recorded.advances progress.embargo)
    · exact .inr ⟨told, ongoing, handedOver.advances progress.embargo⟩
  caseState := joined.caseState.advances progress.caseState

theorem Chronicled.joined {state : ActorState}
    (chronicled : Chronicled state) :
    Joined state :=
  ⟨chronicled.report, .inl chronicled.embargo, chronicled.caseState⟩

/-- Nothing has followed the end of the report or of the embargo. -/
structure EndsForGood (state : ActorState) : Prop where
  report : .closed ∉ state.reportHistory.dropLast
  embargo : .exited ∉ state.embargoHistory.dropLast

theorem Joined.endsForGood {state : ActorState} (joined : Joined state) :
    EndsForGood state where
  report :=
    not_mem_dropLast joined.report.chain ReportState.closed_leads_nowhere
  embargo := by
    rcases joined.embargo with recorded | ⟨told, _, begins, goesOn⟩
    · exact not_mem_dropLast recorded.chain EmbargoState.exited_leads_nowhere
    · have later := not_mem_dropLast goesOn.chain
        EmbargoState.exited_leads_nowhere
      have nonempty : state.embargoHistory.tail ≠ [] := by
        intro empty
        have first : state.embargoHistory.tail.head? = some told :=
          goesOn.begins
        rw [empty] at first
        cases first
      have same : state.embargoHistory =
          .noEmbargo :: state.embargoHistory.tail := begins
      rw [same, List.dropLast_cons_of_ne_nil nonempty]
      intro among
      rcases List.mem_cons.mp among with impossible | among
      · cases impossible
      · exact later among

/-! ## Beginnings -/

theorem chronicled_new (name : String) (roles : Roles)
    (chance : Chance) :
    Chronicled (ActorState.new name roles chance).recordStates :=
  ⟨.beginning _ _, .beginning _ _, .beginning _ _⟩

/-- A newcomer starts with what it was told. -/
theorem joined_adopt (name : String) (roles : Roles) (chance : Chance)
    (record : Participant)
    (unfinished : record.embargo ≠ .exited) :
    Joined
      (((ActorState.new name roles chance).recordStates.moveEmbargo
        record.embargo).moveCase record.state) := by
  have fresh := chronicled_new name roles chance
  have told : Joined
      ((ActorState.new name roles chance).recordStates.moveEmbargo
        record.embargo) := by
    by_cases none : EmbargoState.noEmbargo = record.embargo
    · rw [← none]
      exact fresh.joined
    · have ongoing : record.embargo ∉ [EmbargoState.noEmbargo, .exited] := by
        simp [Ne.symm none, unfinished]
      have changed : (ActorState.new name roles chance).recordStates.embargo ≠
          record.embargo := none
      rw [moveEmbargo_eq, if_neg changed]
      exact ⟨fresh.report, .inr ⟨record.embargo, ongoing, rfl,
        .beginning _ _⟩, fresh.caseState⟩
  refine told.progress (.moveCase ?_)
  intro flag has
  rw [moveEmbargo_eq] at has
  cases flag <;> cases has

end ActorState

/-! ## Runs -/

open ActorState

/-- Everybody keeps a legal history, and nobody is told of an embargo that is
over. -/
def LockStep.Charter.chronicles : LockStep.Charter where
  founder state := Chronicled state ∧ Discreet state
  newcomer state := Joined state ∧ Discreet state
  admits record := record.embargo ≠ .exited
  founderKept := .of_progress fun _ _ holds progress =>
    ⟨holds.1.progress progress, holds.2.progress progress⟩
  newcomerKept := .of_progress fun _ _ holds progress =>
    ⟨holds.1.progress progress, holds.2.progress progress⟩
  founderRedrawn _ _ holds :=
    ⟨⟨holds.1.report, holds.1.embargo, holds.1.caseState⟩, holds.2⟩
  newcomerRedrawn _ _ holds :=
    ⟨⟨holds.1.report, holds.1.embargo, holds.1.caseState⟩, holds.2⟩
  founds name roles chance :=
    ⟨chronicled_new name roles chance, by
      simp [Discreet, recordStates, ActorState.new]⟩
  joins name roles chance record unfinished :=
    ⟨joined_adopt name roles chance record unfinished, by
      rw [moveEmbargo_eq, moveCase_eq]
      simp [Discreet, recordStates, ActorState.new]⟩
  founderAdmits _ holds := holds.2
  newcomerAdmits _ holds := holds.2

/--
Histories are legal paths: after any deliveries and ticks of an actor, and after
any number of rounds for every founder of a case, seeded or not, the history of
each axis is a path of legal moves from its beginning to where the axis stands.
The same is true of members who have joined the case later, but for an embargo
that was handed over.  Nothing has followed the end of a report or of an
embargo.
-/
theorem histories_are_legal :
    (∀ (name : String) (roles : Roles) (abilities : Capabilities)
        (chance : Chance) (policy : Policy) (events : List Actor.Event),
      ∃ actor, Actor.start name roles abilities chance policy = .ok actor ∧
        Chronicled (actor.play events).state ∧
        EndsForGood (actor.play events).state) ∧
    ∀ (seed : Option UInt64) (entropy : Nat → Chance)
        (participants : List Enrollment) (draws : Nat → Nat → Option Chance)
        (rounds : Nat),
      ∃ lockStep,
        LockStep.afterRedrawn seed entropy participants draws rounds =
          .ok lockStep ∧
        ∀ (number : Nat) (member : Member),
          lockStep.members[number]? = some member →
            (if number < participants.length then
              Chronicled member.actor.state
            else Joined member.actor.state) ∧
            EndsForGood member.actor.state := by
  constructor
  · intro name roles abilities chance policy events
    obtain ⟨actor, started, live, begins⟩ :=
      Actor.exists_start name roles abilities chance policy
    have chronicled : actor.Has Chronicled := by
      refine ⟨live, ?_⟩
      rw [begins]
      have fresh := chronicled_new name roles chance
      exact ⟨fresh.report, fresh.embargo, fresh.caseState⟩
    have after := chronicled.play
      (.of_progress fun _ _ => Chronicled.progress) events
    exact ⟨actor, started, after.2, after.2.joined.endsForGood⟩
  · intro seed entropy participants draws rounds
    obtain ⟨lockStep, went, governs⟩ := LockStep.exists_afterRedrawn
      LockStep.Charter.chronicles seed entropy participants draws rounds
    refine ⟨lockStep, went, ?_⟩
    intro number member found
    have kept := (governs.2 number member found).2
    rw [LockStep.Charter.keeps] at kept
    split at kept
    case isTrue founder =>
      rw [if_pos founder]
      exact ⟨kept.1, kept.1.joined.endsForGood⟩
    case isFalse joiner =>
      rw [if_neg joiner]
      exact ⟨kept.1, kept.1.endsForGood⟩

end Disclosure
