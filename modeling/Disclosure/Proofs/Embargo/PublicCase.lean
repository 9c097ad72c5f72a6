import Disclosure.Proofs.Protocol.Backdrop
import Disclosure.Proofs.Simulation.LockStep

/-!
# No embargo in a public case

Once anything about a case is public, no embargo is proposed or in force any
more, provided that the decision to exit an embargo is taken whenever it is
asked.  This holds between any two deeds of an actor, because each deed by which
something becomes public ends the embargo as well; so it holds after every tick,
and of what newcomers are told.
-/

namespace Disclosure

/-- No embargo is proposed or in force once something is public. -/
def NoPublicEmbargo (embargo : EmbargoState) (caseState : CaseState) : Prop :=
  caseState.isQuiet = false → embargo ∈ [.noEmbargo, .exited]

/-- The decision to exit an embargo is always taken. -/
def Policy.Exits (policy : Policy) : Prop :=
  ∀ number stream,
    (policy.settle number ActorState.exitDecision stream).1 = .success

/-- Where there is no embargo, or none any more, only new terms can be offered. -/
theorem EmbargoMove.offersTerms_of_absent {state : EmbargoState}
    {move : EmbargoMove}
    (absent : state ∈ [.noEmbargo, .exited])
    (starts : state ∈ move.starts) :
    move.offersTerms = true := by
  rcases List.mem_pair.mp absent with rfl | rfl <;>
    cases move <;> revert starts <;> decide

namespace ActorState

/-- The actor exits embargoes, and tells no newcomer of one in a public case. -/
structure Upright (state : ActorState) : Prop where
  exits : state.arbiter.policy.Exits
  told : ∀ record ∈ state.introduced,
    NoPublicEmbargo record.embargo record.state

/-- Neither does it keep one itself. -/
structure Candid (state : ActorState) : Prop extends Upright state where
  own : NoPublicEmbargo state.embargo state.caseState

theorem Candid.of_backdrop {before after : ActorState}
    (candid : Candid before)
    (same : after.backdrop = before.backdrop) :
    Candid after := by
  simp only [backdrop, Prod.mk.injEq] at same
  rcases same with ⟨⟨embargo, _⟩, ⟨caseState, _⟩, introduced, policy⟩
  constructor
  · constructor
    · rw [policy]
      exact candid.exits
    · rw [introduced]
      exact candid.told
  · rw [embargo, caseState]
    exact candid.own

theorem Candid.of_standing {before after : ActorState}
    (candid : Candid before)
    (same : after.standing = before.standing) :
    Candid after :=
  candid.of_backdrop (backdrop_of_standing same)

/-! ## News and what they end -/

namespace Upright

theorem setFlag {state : ActorState} (upright : Upright state)
    (flag : CaseFlag) :
    Upright (state.setFlag flag) := by
  rw [ActorState.setFlag, moveCase_eq]
  exact ⟨upright.exits, upright.told⟩

theorem goPublic {state : ActorState} (upright : Upright state) :
    Upright state.goPublic := by
  rw [ActorState.goPublic]
  split
  · exact upright
  · have known := upright.setFlag .publicAware
    exact ⟨known.exits, known.told⟩

theorem hearNews {state : ActorState} (upright : Upright state)
    (type : MessageType) :
    Upright (state.hearNews type) := by
  rw [hearNews.eq_def]
  split
  · exact upright.setFlag _
  · exact (upright.setFlag _).goPublic
  · exact upright.setFlag _
  · exact upright

theorem witness {state : ActorState} (upright : Upright state)
    (threat : Threat) :
    Upright (state.witness threat) := by
  cases threat with
  | attack =>
    have seen := upright.setFlag .attacksObserved
    exact ⟨seen.exits, seen.told⟩
  | exploit =>
    have seen := upright.goPublic.setFlag .exploitPublic
    exact ⟨seen.exits, seen.told⟩
  | publicReport =>
    have seen := upright.setFlag .publicAware
    exact ⟨seen.exits, seen.told⟩

theorem announce {state : ActorState} (upright : Upright state)
    (move : EmbargoMove) :
    Upright (state.announce move) := by
  rw [ActorState.announce, moveEmbargo_eq]
  exact ⟨upright.exits, upright.told⟩

/-- When the decision to exit is taken, the end of the embargo is one. -/
theorem ends {before after : ActorState}
    (upright : Upright before)
    (ends : EndsEmbargo before after) :
    Candid after := by
  cases ends with
  | nothing absent => exact ⟨upright, fun _ => absent⟩
  | withdraw =>
    refine ⟨upright.announce .reject, fun _ => ?_⟩
    have none := moveEmbargo_embargo EmbargoMove.reject.target before
    exact List.mem_pair.mpr (.inl none)
  | terminate =>
    have asked : Upright (before.decide exitDecision).2 :=
      ⟨upright.exits, upright.told⟩
    refine ⟨asked.announce .terminate, fun _ => ?_⟩
    have exited := moveEmbargo_embargo EmbargoMove.terminate.target
      (before.decide exitDecision).2
    exact List.mem_pair.mpr (.inr exited)
  | refused _ kept => exact (kept (upright.exits _ _)).elim

end Upright

/-! ## Other changes -/

namespace Candid

/-- Flags on the side of the vendor make nothing public. -/
theorem setFlag {state : ActorState} {flag : CaseFlag}
    (candid : Candid state)
    (vendors : flag ∈ [.vendorAware, .fixReady, .fixDeployed]) :
    Candid (state.setFlag flag) := by
  refine ⟨candid.toUpright.setFlag flag, ?_⟩
  have sameQuiet :
      (state.caseState.insert flag).isQuiet = state.caseState.isQuiet := by
    simp only [List.mem_cons, List.not_mem_nil, or_false] at vendors
    rcases vendors with rfl | rfl | rfl <;> rfl
  rw [ActorState.setFlag, moveCase_eq, NoPublicEmbargo, sameQuiet]
  exact candid.own

theorem learn {state : ActorState} (candid : Candid state) :
    Candid state.learn := by
  rw [ActorState.learn]
  split
  · exact (candid.setFlag (by simp)).of_backdrop rfl
  · exact candid

theorem moveEmbargo {state : ActorState} {target : EmbargoState}
    (candid : Candid state)
    (viable : state.caseState.isQuiet = true ∨
      target ∈ [.noEmbargo, .exited]) :
    Candid (state.moveEmbargo target) := by
  rw [moveEmbargo_eq]
  refine ⟨⟨candid.exits, candid.told⟩, ?_⟩
  intro loud
  rcases viable with quiet | absent
  · rw [quiet] at loud
    cases loud
  · exact absent

/-- In a public case there is nothing left to move by a move of one's own. -/
theorem announce {state : ActorState} {move : EmbargoMove}
    (candid : Candid state)
    (starts : state.embargo ∈ move.starts)
    (viable : (state.caseState.isQuiet || !move.offersTerms) = true) :
    Candid (state.announce move) := by
  have quiet : state.caseState.isQuiet = true := by
    by_contra loud
    have absent := candid.own (by simpa using loud)
    have offers := EmbargoMove.offersTerms_of_absent absent starts
    simp [loud, offers] at viable
  exact (candid.moveEmbargo (.inl quiet)).of_backdrop rfl

theorem follow {state : ActorState} {move : EmbargoMove}
    (candid : Candid state)
    (viable : (state.caseState.isQuiet || move.endsTalks) = true) :
    Candid (state.moveEmbargo move.target) := by
  apply candid.moveEmbargo
  rcases (Bool.or_eq_true ..).mp viable with quiet | ends
  · exact .inl quiet
  · refine .inr ?_
    revert ends
    cases move <;> decide

/-- What a newcomer is told is what the actor keeps itself. -/
theorem engage {state : ActorState} {candidate : Participant}
    (candid : Candid state)
    (known : state.recipient? = some candidate) :
    Candid state.engage := by
  rcases exists_of_recipient known with ⟨name, chosen, listed⟩
  rw [engage_eq chosen listed]
  refine ⟨⟨candid.exits, ?_⟩, candid.own⟩
  intro record among
  rcases Array.mem_push.mp among with before | rfl
  · exact candid.told record before
  · exact candid.own

/-! ## Deeds -/

/-- Every deed is candid. -/
theorem deed {before after : ActorState}
    (candid : Candid before)
    (deed : Deed before after) :
    Candid after := by
  cases deed with
  | muse muses => exact candid.of_standing (standing_muses muses)
  | snapshot | takeUp | putBack | finish | acknowledge | complain | inquire
  | inject | assign => exact candid.of_backdrop rfl
  | validate | invalidate | close =>
    exact candid.of_backdrop (backdrop_moveReport _ before)
  | prioritize => exact candid.of_backdrop (backdrop_prioritize before)
  | choose => exact candid.of_standing (standing_chooseRecipient before)
  | strike => exact candid.of_standing (standing_removeRecipient before)
  | discover =>
    have received : Candid
        ((before.moveReport .received).broadcast .reportSubmission) :=
      candid.of_backdrop (backdrop_moveReport .received before)
    exact received.learn
  | takeSubmission =>
    have received : Candid
        (if before.report = .start then before.moveReport .received
        else before) := by
      split
      · exact candid.of_backdrop (backdrop_moveReport .received before)
      · exact candid
    exact received.learn
  | follow _ _ viable => exact candid.follow viable
  | hearNews _ _ ends => exact (candid.toUpright.hearNews _).ends ends
  | witness threat _ ends => exact (candid.toUpright.witness threat).ends ends
  | announce move starts viable => exact candid.announce starts viable
  | createFix => exact (candid.setFlag (by simp)).of_backdrop rfl
  | deployFix => exact (candid.setFlag (by simp)).of_backdrop rfl
  | publish free =>
    have known := candid.toUpright.setFlag .publicAware
    refine ⟨⟨known.exits, known.told⟩, fun _ => ?_⟩
    rw [ActorState.setFlag, moveCase_eq]
    exact free
  | engage known => exact candid.engage known

theorem invariant : Invariant Candid where
  deliver _ _ candid := candid.of_backdrop rfl
  clock _ candid := candid.of_backdrop rfl
  clearRecord _ candid := candid.of_backdrop rfl
  deed _ _ candid done := candid.deed done

/-- An actor that has not heard of anything is candid. -/
theorem of_beginning {state : ActorState}
    (exits : state.arbiter.policy.Exits)
    (nobody : state.introduced = #[])
    (quiet : state.caseState = .initial) :
    Candid state := by
  refine ⟨⟨exits, by simp [nobody]⟩, ?_⟩
  intro loud
  rw [quiet] at loud
  cases loud

end Candid

end ActorState

/-! ## Runs -/

theorem Policy.weighted_exits : Policy.weighted.Exits :=
  fun _ _ => rfl

/-- In a case with the default policies everybody is candid, and a newcomer is
told of no embargo in a public case. -/
def LockStep.Charter.candid : LockStep.Charter where
  founder := ActorState.Candid
  newcomer := ActorState.Candid
  admits record := NoPublicEmbargo record.embargo record.state
  founderKept := ActorState.Candid.invariant
  newcomerKept := ActorState.Candid.invariant
  founderRedrawn _ _ candid := candid.of_backdrop rfl
  newcomerRedrawn _ _ candid := candid.of_backdrop rfl
  founds _ _ _ := .of_beginning Policy.weighted_exits rfl rfl
  joins _ _ _ record told := by
    rw [ActorState.moveEmbargo_eq, ActorState.moveCase_eq]
    exact ⟨⟨Policy.weighted_exits, by simp [ActorState.recordStates,
      ActorState.new]⟩, told⟩
  founderAdmits _ candid := candid.told
  newcomerAdmits _ candid := candid.told

/--
No embargo stands in a public case: after any deliveries and ticks of an actor
that takes the decision to exit an embargo whenever it is asked, and after any
number of rounds for every member of a case with the default policies, seeded or
not.
-/
theorem no_embargo_in_public_case :
    (∀ (name : String) (roles : Roles) (abilities : Capabilities)
        (chance : Chance) (policy : Policy) (events : List Actor.Event),
      policy.Exits →
      ∃ actor, Actor.start name roles abilities chance policy = .ok actor ∧
        NoPublicEmbargo (actor.play events).state.embargo
          (actor.play events).state.caseState) ∧
    ∀ (seed : Option UInt64) (entropy : Nat → Chance)
        (participants : List Enrollment) (draws : Nat → Nat → Option Chance)
        (rounds : Nat),
      ∃ lockStep,
        LockStep.afterRedrawn seed entropy participants draws rounds =
          .ok lockStep ∧
        ∀ member ∈ lockStep.members,
          NoPublicEmbargo member.actor.state.embargo
            member.actor.state.caseState := by
  constructor
  · intro name roles abilities chance policy events exits
    obtain ⟨actor, started, live, begins⟩ :=
      Actor.exists_start name roles abilities chance policy
    have candid : actor.Has ActorState.Candid := by
      refine ⟨live, ?_⟩
      rw [begins]
      exact .of_beginning exits rfl rfl
    have after := candid.play ActorState.Candid.invariant events
    exact ⟨actor, started, after.2.own⟩
  · intro seed entropy participants draws rounds
    obtain ⟨lockStep, went, governs⟩ := LockStep.exists_afterRedrawn
      LockStep.Charter.candid seed entropy participants draws rounds
    refine ⟨lockStep, went, ?_⟩
    intro member among
    exact governs.member (fun _ candid => candid.own)
      (fun _ candid => candid.own) among

/-- Everything is left pending but the exit of an embargo. -/
def Policy.hesitant : Policy :=
  .byName fun name =>
    if name = ActorState.exitDecision.name then .success else .running

/-- A vendor who hears of an embargo and of an exploit, and decides nothing but
the exit of embargoes. -/
theorem no_embargo_after_exploit :
    Policy.hesitant.Exits ∧
      ∃ actor,
        Actor.start "vendor" (.ofList [.vendor]) (.ofRoles (.ofList [.vendor]))
            (.ofSeed 0) .hesitant = .ok actor ∧
          NoPublicEmbargo
            (actor.play
              [.deliver (.broadcast .reportSubmission "finder"),
               .deliver (.broadcast .embargoProposal "finder"), .tick,
               .deliver (.broadcast .exploitPublished "finder"),
               .tick]).state.embargo
            (actor.play
              [.deliver (.broadcast .reportSubmission "finder"),
               .deliver (.broadcast .embargoProposal "finder"), .tick,
               .deliver (.broadcast .exploitPublished "finder"),
               .tick]).state.caseState := by
  have exits : Policy.hesitant.Exits := by
    intro number stream
    simp [Policy.hesitant, Policy.byName]
  exact ⟨exits, no_embargo_in_public_case.1 _ _ _ _ _ _ exits⟩

end Disclosure
