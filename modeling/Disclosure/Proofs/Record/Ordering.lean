import Disclosure.Proofs.Record.Deeds
import Disclosure.Proofs.Simulation.LockStep

/-!
# The order of the flags of a case

A fix is deployed only when it is ready, and ready only when the vendor is aware;
an exploit is public only when the vulnerability is.  Nothing in the type of case
states demands this.  It holds because each flag that needs another one is set
only where that one is set, or in one entry with it, and because newcomers are
told of all flags of the public side or of none.
-/

namespace Disclosure

/-! ## Case states in order -/

/-- The flag without which a flag makes no sense, if there is one. -/
def CaseFlag.needs? : CaseFlag → Option CaseFlag
  | fixReady => some vendorAware
  | fixDeployed => some fixReady
  | exploitPublic => some publicAware
  | _ => none

/-- No flag is set without the one that it needs. -/
structure CaseState.Ordered (state : CaseState) : Prop where
  deployed : state.fixDeployed = true → state.fixReady = true
  ready : state.fixReady = true → state.vendorAware = true
  exploit : state.exploitPublic = true → state.publicAware = true

namespace CaseState.Ordered

variable {state : CaseState}

theorem initial : Ordered .initial where
  deployed := nofun
  ready := nofun
  exploit := nofun

/-- A flag may be set where the flag that it needs is set. -/
theorem insert {flag : CaseFlag}
    (ordered : state.Ordered)
    (prepared : ∀ needed, flag.needs? = some needed →
      state.has needed = true) :
    (state.insert flag).Ordered := by
  cases flag with
  | vendorAware => exact ⟨ordered.deployed, fun _ => rfl, ordered.exploit⟩
  | fixReady =>
    exact ⟨fun _ => rfl, fun _ => prepared .vendorAware rfl, ordered.exploit⟩
  | fixDeployed =>
    exact ⟨fun _ => prepared .fixReady rfl, ordered.ready, ordered.exploit⟩
  | publicAware => exact ⟨ordered.deployed, ordered.ready, fun _ => rfl⟩
  | exploitPublic =>
    exact ⟨ordered.deployed, ordered.ready,
      fun _ => prepared .publicAware rfl⟩
  | attacksObserved => exact ⟨ordered.deployed, ordered.ready, ordered.exploit⟩

/-- An exploit and the vulnerability may become public together. -/
theorem insert_exploit (ordered : state.Ordered) :
    ((state.insert .exploitPublic).insert .publicAware).Ordered :=
  ⟨ordered.deployed, ordered.ready, fun _ => rfl⟩

/-- The side of the public is in order by itself. -/
theorem publicPart (ordered : state.Ordered) : state.publicPart.Ordered where
  deployed := nofun
  ready := nofun
  exploit := ordered.exploit

end CaseState.Ordered

/-! ## Records in order -/

/-- The flags are in order, and so are those that newcomers were told of. -/
structure Record.Ordered (record : Record) : Prop where
  own : record.caseState.Ordered
  told : ∀ newcomer ∈ record.introduced, newcomer.state.Ordered

namespace Record.Ordered

variable {record before after : Record}

/-- What a flag needs was set before the actor sets the flag itself. -/
theorem prepared {flag needed : CaseFlag}
    (ordered : record.Ordered)
    (warranted : record.Warrants flag)
    (needs : flag.needs? = some needed) :
    record.caseState.has needed = true := by
  cases flag with
  | vendorAware | publicAware | attacksObserved => cases needs
  | fixReady =>
    cases needs
    rcases warranted.2.2 with ready | aware
    · exact ordered.own.ready ready
    · exact aware
  | fixDeployed =>
    cases needs
    have hasFix := warranted.2.1
    simp only [CaseState.vendorHasFix, Bool.and_eq_true] at hasFix
    exact hasFix.2
  | exploitPublic =>
    cases needs
    exact warranted.1

/-- Entries about the case keep its flags in order. -/
theorem caseEntry (ordered : before.Ordered) (entry : CaseEntry before after) :
    after.caseState.Ordered := by
  cases entry with
  | expose => exact ordered.own.insert_exploit
  | raise warranted =>
    exact ordered.own.insert fun _ => ordered.prepared warranted
  | @hear flag others known =>
    apply ordered.own.insert
    intro needed needs
    cases flag with
    | publicAware | attacksObserved => cases needs
    | exploitPublic =>
      cases needs
      exact known rfl
    | vendorAware | fixReady | fixDeployed => cases others

/-- Every entry keeps the flags in order. -/
theorem entry (ordered : before.Ordered) (entry : Entry before after) :
    after.Ordered := by
  constructor
  · rcases entry.case_or_leaves with entry | leaves
    · exact ordered.caseEntry entry
    · rw [leaves.caseState]
      exact ordered.own
  · intro newcomer among
    rcases entry.told newcomer among with earlier | briefed
    · exact ordered.told newcomer earlier
    · rw [briefed]
      exact ordered.own.publicPart

theorem beginning (name : String) (roles : Roles) (abilities : Capabilities) :
    (Record.beginning name roles abilities).Ordered where
  own := .initial
  told := by simp [Record.beginning]

end Record.Ordered

/-! ## Runs -/

/-- Everybody keeps the flags in order, and newcomers are told of flags in
order. -/
def LockStep.Charter.ordered : LockStep.Charter where
  founder state := state.record.Ordered
  newcomer state := state.record.Ordered
  admits record := record.state.Ordered
  founderKept := .of_entries fun _ _ => Record.Ordered.entry
  newcomerKept := .of_entries fun _ _ => Record.Ordered.entry
  founderRedrawn _ _ ordered := ordered
  newcomerRedrawn _ _ ordered := ordered
  founds name roles _ := .beginning name roles (.ofRoles roles)
  joins name roles chance record told := by
    rw [ActorState.moveEmbargo_eq, ActorState.moveCase_eq]
    exact ⟨told, by simp [ActorState.record, ActorState.recordStates,
      ActorState.new]⟩
  founderAdmits _ ordered record among :=
    ordered.told record (Array.mem_toList_iff.mpr among)
  newcomerAdmits _ ordered record among :=
    ordered.told record (Array.mem_toList_iff.mpr among)

/--
The flags of a case are set in order: after any deliveries and ticks of an
actor, whatever is decided, and after any number of rounds for every member of a
case, seeded or not, newcomers included.  No fix is deployed that is not ready,
none is ready of which no vendor is aware, and no exploit is public without the
vulnerability.
-/
theorem case_flags_are_ordered :
    (∀ (name : String) (roles : Roles) (abilities : Capabilities)
        (chance : Chance) (policy : Policy) (events : List Actor.Event),
      ∃ actor, Actor.start name roles abilities chance policy = .ok actor ∧
        (actor.play events).state.caseState.Ordered) ∧
    ∀ (seed : Option UInt64) (entropy : Nat → Chance)
        (participants : List Enrollment) (draws : Nat → Nat → Option Chance)
        (rounds : Nat),
      ∃ lockStep,
        LockStep.afterRedrawn seed entropy participants draws rounds =
          .ok lockStep ∧
        ∀ member ∈ lockStep.members,
          member.actor.state.caseState.Ordered := by
  constructor
  · intro name roles abilities chance policy events
    obtain ⟨actor, started, ordered⟩ := Actor.exists_recorded
      (fun _ _ => Record.Ordered.entry) (.beginning name roles abilities)
      chance policy events
    exact ⟨actor, started, ordered.own⟩
  · intro seed entropy participants draws rounds
    obtain ⟨lockStep, went, governs⟩ := LockStep.exists_afterRedrawn
      LockStep.Charter.ordered seed entropy participants draws rounds
    refine ⟨lockStep, went, ?_⟩
    intro member among
    exact governs.member (fun _ ordered => ordered.own)
      (fun _ ordered => ordered.own) among

end Disclosure
