import Disclosure.Proofs.Protocol.Posting
import Disclosure.Proofs.Random.Draw

/-!
# How the contacts change

An actor finds candidates, chooses one of them, strikes one, or tells one.  A
candidate that is told leaves the list of candidates and comes last among the
participants, with what it was told on record.
-/

namespace Disclosure

namespace Roster

theorem name_of_potential {roster : Roster} {name : String}
    {candidate : Participant}
    (known : roster.potential? name = some candidate) :
    candidate.name = name := by
  have found := List.find?_some known
  simpa using found

/-- A change of the first entry of a name is undone by striking it. -/
theorem eraseP_modifyFirst {name : String} {change : Participant → Participant}
    (keepsName : ∀ candidate, candidate.name = name →
      (change candidate).name = name)
    (candidates : List Participant) :
    (modifyFirst name change candidates).eraseP
        (fun candidate => candidate.name == name) =
      candidates.eraseP fun candidate => candidate.name == name := by
  induction candidates with
  | nil => rfl
  | cons candidate candidates ih =>
    by_cases named : candidate.name = name
    · simp [modifyFirst, named, keepsName candidate named]
    · simp [modifyFirst, named, ih]

/-- Who is struck from a list and put somewhere else is still there. -/
theorem perm_eraseP {name : String} {candidates : List Participant}
    {candidate : Participant}
    (found : candidates.find? (fun other => other.name == name) =
      some candidate) :
    (candidate :: candidates.eraseP fun other => other.name == name).Perm
      candidates := by
  induction candidates with
  | nil => cases found
  | cons other candidates ih =>
    by_cases named : other.name = name
    · simp only [List.find?_cons, named, beq_self_eq_true,
        Option.some.injEq] at found
      subst found
      rw [List.eraseP_cons_of_pos (by simpa using named)]
    · simp only [List.find?_cons, beq_eq_false_iff_ne.mpr named] at found
      rw [List.eraseP_cons_of_neg (by simpa using named)]
      exact (List.Perm.swap ..).trans ((ih found).cons other)

/-- All parties of a roster by name, candidates last. -/
def names (roster : Roster) : List String :=
  (roster.participants ++ roster.potential).map Participant.name

end Roster

namespace ActorState

section Telling

variable {state : ActorState} {name : String} {candidate : Participant}

/-- Telling somebody is to move it behind the participants, with what it was
told on record. -/
theorem connectRoster_eq
    (known : state.roster.potential? name = some candidate) :
    state.connectRoster name candidate =
      { state.roster with
        participants :=
          state.roster.participants ++ [state.newcomer candidate]
        potential :=
          state.roster.potential.eraseP fun other => other.name == name } := by
  have named : candidate.name = name := Roster.name_of_potential known
  have keepsName : ∀ other : Participant, other.name = name →
      (state.newcomer candidate).name = name := fun _ _ => named
  have briefedName : ∀ other : Participant, other.name = name →
      (state.briefed other).name = name := fun _ same => same
  have found : ((state.briefRoster name).modifyPotential name fun _ =>
      state.newcomer candidate).potential? name =
        some (state.newcomer candidate) := by
    rw [Roster.potential?_modifyPotential keepsName, potential?_briefRoster known]
    rfl
  have struck : (Roster.modifyFirst name (fun _ => state.newcomer candidate)
      (Roster.modifyFirst name state.briefed state.roster.potential)).eraseP
        (fun other => other.name == name) =
      state.roster.potential.eraseP fun other => other.name == name := by
    rw [Roster.eraseP_modifyFirst keepsName,
      Roster.eraseP_modifyFirst briefedName]
  rw [connectRoster, Roster.engage, found]
  simp only [Roster.removePotential, Roster.modifyPotential, briefRoster,
    struck]

end Telling

/-- Whoever is chosen is a candidate. -/
theorem notifying_chooseRecipient {state : ActorState} {name : String}
    (chosen : state.chooseRecipient.2.notifying = some name)
    (nobody : state.recipient? = none) :
    name ∈ state.roster.potential.map Participant.name := by
  simp only [chooseRecipient, nobody] at chosen
  exact RandomStream.mem_of_choose chosen

end ActorState

end Disclosure
