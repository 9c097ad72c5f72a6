import Disclosure.Proofs.Protocol.Posting
import Disclosure.Proofs.Record.Deeds

/-!
# Actors that keep to themselves

Only an actor that is able to report to others looks for candidates.  One that is
not, and that knows no candidates, never brings anybody into the case, and
whatever it sends it sends to everybody.
-/

namespace Disclosure

namespace ActorState

/-- Nothing that an actor does makes it able to do more or less. -/
theorem Deed.abilities {before after : ActorState}
    (deed : Deed before after) :
    after.abilities = before.abilities := by
  have kept : ∀ earlier later : Record,
      earlier.abilities = before.abilities → Entry earlier later →
        later.abilities = before.abilities :=
    fun _ _ same entry => entry.sameOffice.2.trans same
  exact Entries.preserves kept deed.enters rfl

/-- An actor of this name that cannot reach out to others, knows no candidates, has
introduced nobody and has only sent to everybody. -/
structure Secluded (name : String) (state : ActorState) : Prop where
  named : state.name = name
  unable : state.abilities.reportToOthers = false
  nobody : state.roster.potential = []
  introduced : state.introduced = #[]
  broadcasts : ∀ message ∈ state.sent.toList,
    message.recipient = none ∧ message.sender = name

namespace Secluded

variable {name : String} {state before after : ActorState}

/-- A new actor whose roles do not imply that it tells others is secluded. -/
theorem begins {roles : Roles} (chance : Chance)
    (noReporter : roles.reporter = false)
    (noCoordinator : roles.coordinator = false) :
    (ActorState.new name roles chance).recordStates.Secluded name where
  named := rfl
  unable := by
    change (roles.reporter || roles.coordinator) = false
    rw [noReporter, noCoordinator]
    rfl
  nobody := rfl
  introduced := rfl
  broadcasts := by
    intro message among
    cases among

theorem recipient? (secluded : state.Secluded name) :
    state.recipient? = none := by
  cases known : state.recipient? with
  | none => rfl
  | some candidate =>
    rcases exists_of_recipient known with ⟨other, _, listed⟩
    rw [Roster.potential?, secluded.nobody] at listed
    cases listed

/-- To look for a candidate among none is to draw and to find nobody. -/
theorem choose (secluded : state.Secluded name) :
    state.chooseRecipient.2.Secluded name := by
  rw [chooseRecipient, secluded.recipient?]
  exact ⟨secluded.named, secluded.unable, secluded.nobody,
    secluded.introduced, secluded.broadcasts⟩

/-- News for everybody leave the contacts as they are. -/
theorem speak (secluded : before.Secluded name)
    (speaks : Speaks before after)
    (abilities : after.abilities = before.abilities) :
    after.Secluded name := by
  obtain ⟨roster, _, _, introduced⟩ := by
    simpa only [ActorState.contacts, Prod.mk.injEq] using speaks.contacts
  refine ⟨speaks.name.trans secluded.named, abilities ▸ secluded.unable,
    roster ▸ secluded.nobody, introduced.trans secluded.introduced, ?_⟩
  rcases speaks.sent with ⟨types, sent⟩
  rw [sent]
  intro message among
  rcases List.mem_append.mp among with earlier | news
  · exact secluded.broadcasts message earlier
  · rcases List.mem_map.mp news with ⟨type, _, rfl⟩
    exact ⟨rfl, secluded.named⟩

theorem deed (secluded : before.Secluded name) (deed : Deed before after) :
    after.Secluded name := by
  rcases deed.speaks_or_approaches with
    speaks | ⟨-, able | ⟨_, known⟩ | rfl⟩
  · exact secluded.speak speaks deed.abilities
  · cases able.symm.trans secluded.unable
  · cases known.symm.trans secluded.recipient?
  · exact secluded.choose

end Secluded

/-- Who is secluded stays so. -/
theorem secluded_kept (name : String) : Invariant (Secluded name) where
  deliver _ _ secluded := { secluded with }
  clock _ secluded := { secluded with }
  clearRecord _ secluded := { secluded with }
  deed _ _ secluded deed := secluded.deed deed

end ActorState

end Disclosure
