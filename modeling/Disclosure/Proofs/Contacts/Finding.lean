import Disclosure.Proofs.Contacts.Naming
import Disclosure.Proofs.Protocol.Logging

/-!
# A tick finds three candidates at most

A toll counts the candidates that are found on the way through the protocol, and
sees to it that all parties keep different names.  To look for a candidate costs
one, and nothing else costs anything.  Meanwhile one row is written in the log,
so that there are three candidates for each row at most.
-/

namespace Disclosure

open ActorState

/-- Some candidates were found at most, and all names are different as long as
the count of candidates does not begin anew. -/
def Toll.naming : Toll ActorState where
  holds cost before after :=
    before.roster.injected.toNat + cost < 2 ^ 64 →
      before.roster.Numbered →
        after.roster.Numbered ∧
          after.roster.injected.toNat ≤ before.roster.injected.toNat + cost
  rest _ _ numbered := ⟨numbered, Nat.le_refl _⟩
  trans {first last _ _ _} begins goesOn room numbered := by
    obtain ⟨numberedThen, count⟩ := begins (by omega) numbered
    obtain ⟨numberedLast, countLast⟩ := goesOn (by omega) numberedThen
    exact ⟨numberedLast, by omega⟩
  mono enough holds room numbered := by
    obtain ⟨numberedThen, count⟩ := holds (by omega) numbered
    exact ⟨numberedThen, by omega⟩

namespace Law

/-- What keeps the roster is free. -/
theorem free_of_roster {before after : ActorState}
    (same : after.roster = before.roster) :
    Toll.naming.holds 0 before after := by
  intro _ numbered
  rw [same]
  exact ⟨numbered, Nat.le_refl _⟩

theorem free_of_perm {before after : ActorState}
    (same : after.roster.names.Perm before.roster.names)
    (counted : after.roster.injected = before.roster.injected) :
    Toll.naming.holds 0 before after := by
  intro _ numbered
  rw [counted]
  exact ⟨numbered.of_perm same counted, Nat.le_refl _⟩

theorem regular_naming : Toll.naming.free.Regular := by
  have regular : (keeping ActorState.roster).Regular :=
    regular_keeping fun _ _ alike => congrArg Prod.fst alike.2.2
  exact regular.weaken (fun _ _ _ same => free_of_roster same)
    (.inl Toll.naming.lenient_free)

theorem incoming_naming : Toll.naming.free.Incoming := by
  refine incoming_keeping.weaken fun _ _ _ same => free_of_roster ?_
  exact congrArg (fun view => view.2.1) same

theorem telling_naming : Toll.naming.free.Telling where
  choose state := by
    simp only [chooseRecipient]
    split <;> exact free_of_roster rfl
  strike state := by
    rw [removeRecipient]
    split
    · exact free_of_roster rfl
    · intro _ numbered
      exact ⟨numbered.of_sublist (Roster.names_removePotential _ _) rfl,
        Nat.le_refl _⟩
  report state := by
    simp only [reportToRecipient]
    split <;> exact free_of_roster rfl
  brief state := by
    simp only [briefRecipient]
    split
    next name _ _ _ =>
      have same : (state.briefRoster name).names = state.roster.names :=
        Roster.names_modifyPotential fun _ same => same
      exact free_of_perm (.of_eq same) rfl
    next => exact free_of_roster rfl
  connect state := by
    simp only [connectRecipient]
    split
    next name candidate chosen known =>
      rcases exists_of_recipient known with ⟨told, chosenToo, listed⟩
      cases chosen.symm.trans chosenToo
      have named : candidate.name = name := Roster.name_of_potential listed
      have renamed : (state.roster.modifyPotential name fun _ =>
          { candidate with report := .received }).names =
            state.roster.names :=
        Roster.names_modifyPotential fun _ _ => named
      exact free_of_perm ((Roster.names_engage _ name).trans (.of_eq renamed))
        (Roster.injected_engage _ name)
    next => exact free_of_roster rfl

end Law

namespace Behavior

open Toll

variable {bound : Nat}

/-- To look for a candidate costs one. -/
theorem pays_identify {kind : String} {more : Weight} {roles : Roles}
    (wanted : (kind, roles) ∈ candidateKinds)
    (settles : more.settles = true) :
    (identify kind more roles).Pays naming 1 := by
  have plain := Law.regular_naming.toPlain
  refine Spec.pays_forceSuccess
    (Spec.pays_sequence [0, 1] (.cons ?_ (.cons ?_ .nil)) rfl)
  · exact .of_obeys (obeys_decision plain _ settles)
  · apply Spec.pays_effect
    intro state room numbered
    rcases numbered.inject wanted room with ⟨numberedThen, counted⟩
    exact ⟨numberedThen, Nat.le_of_eq counted⟩

theorem pays_identifyParticipants : identifyParticipants.Pays naming 3 := by
  have plain := Law.regular_naming.toPlain
  refine Spec.pays_fallback [0, 3] (.cons ?_ (.cons ?_ .nil)) rfl
  · exact .of_obeys (obeys_decision plain _ rfl)
  · refine Spec.pays_sequence [1, 1, 1] ?_ rfl
    refine .cons ?_ (.cons ?_ (.cons ?_ .nil))
    · exact pays_identify (by simp [candidateKinds]) rfl
    · exact pays_identify (by simp [candidateKinds]) rfl
    · exact pays_identify (by simp [candidateKinds]) rfl

theorem pays_reportToOthers : reportToOthers.Pays naming 3 := by
  refine Spec.pays_sequence [0, 3] (.cons ?_ (.cons ?_ .nil)) rfl
  · exact .of_obeys Spec.obeys_condition
  refine Spec.pays_fallback [0, 3] (.cons ?_ (.cons ?_ .nil)) rfl
  · exact .of_obeys Spec.obeys_condition
  refine Spec.pays_sequence [3, 0] (.cons ?_ (.cons ?_ .nil)) rfl
  · exact pays_identifyParticipants
  · exact .of_obeys
      (obeys_notifyOthers Law.regular_naming Law.telling_naming)

/-- Of all the work, only reaching out to others costs anything. -/
theorem pays_doWork : doWork.Pays naming 3 := by
  have regular := Law.regular_naming
  have plain := regular.toPlain
  refine Spec.pays_parallel [0, 0, 0, 0, 3, 0, 0, 0] ?_ rfl regular.draw
  refine .cons ?_ (.cons ?_ (.cons ?_ (.cons ?_ (.cons ?_ (.cons ?_
    (.cons ?_ (.cons ?_ .nil)))))))
  · exact .of_obeys (obeys_developFix regular)
  · exact .of_obeys (obeys_deployment regular)
  · exact .of_obeys (obeys_monitorThreats regular)
  · exact .of_obeys (obeys_publication regular)
  · exact pays_reportToOthers
  · exact .of_obeys (obeys_assignIdentifier regular)
  · exact .of_obeys (obeys_decision plain _ rfl)
  · exact .of_obeys (obeys_decision plain _ rfl)

theorem pays_reportManagement : reportManagement.Pays naming 3 := by
  have regular := Law.regular_naming
  have plain := regular.toPlain
  have free : ∀ behavior : Behavior, behavior.Obeys naming.free →
      ∀ name stage, (whileReport name stage behavior).Pays naming 0 := by
    intro behavior obeys name stage
    refine .of_obeys ?_
    simpa [whileReport, reportIn] using obeys
  have closing : ∀ behavior : Behavior, behavior.Obeys naming.free →
      ∀ name, (closeOr name behavior).Obeys naming.free := by
    intro behavior obeys name
    simpa [closeOr, obeys_closeReport plain] using obeys
  have validating := obeys_validateReport plain
  have prioritizing := obeys_prioritizeReport regular
  refine Spec.pays_fallback [0, 0, 0, 0, 0, 0, 3] ?_ rfl
  refine .cons ?_ (.cons ?_ (.cons ?_ (.cons ?_ (.cons ?_ (.cons ?_
    (.cons ?_ .nil))))))
  · exact .of_obeys (obeys_isIn _ _)
  · exact .of_obeys (obeys_isIn _ _)
  · exact free _ validating _ _
  · exact free _ (closing _ validating _) _ _
  · exact free _ prioritizing _ _
  · exact free _ (closing _ prioritizing _) _ _
  · refine Spec.pays_sequence [0, 3] (.cons ?_ (.cons ?_ .nil)) rfl
    · exact .of_obeys (obeys_isIn _ _)
    refine Spec.pays_fallback [0, 3] (.cons ?_ (.cons ?_ .nil)) rfl
    · exact .of_obeys (obeys_closeReport plain)
    refine Spec.pays_sequence [0, 3] (.cons ?_ (.cons ?_ .nil)) rfl
    · exact .of_obeys prioritizing
    · exact pays_doWork

/-- A tick of the protocol costs three at most. -/
theorem pays_protocolRoot : protocolRoot.Pays naming 3 := by
  have plain := Law.regular_naming.toPlain
  refine Spec.pays_sequence [0, 0, 0, 0, 3, 0] ?_ rfl
  refine .cons ?_ (.cons ?_ (.cons ?_ (.cons ?_ (.cons ?_
    (.cons ?_ .nil)))))
  · exact Spec.pays_effect fun _ => Law.free_of_roster rfl
  · exact .of_obeys (obeys_notIn _ _)
  · exact .of_obeys (obeys_discoverVulnerability plain)
  · exact .of_obeys (obeys_receiveMessages plain Law.incoming_naming)
  · exact pays_reportManagement
  · exact .of_obeys (obeys_embargoManagement plain)

end Behavior

/-! ## Runs -/

/-- How many rows may be written before the count of candidates could begin
anew. -/
def roomyLog : Nat := 2 ^ 62

namespace ActorState

/-- As long as the log is roomy, all parties have different names, and three
candidates were found for each row at most. -/
def Names (state : ActorState) : Prop :=
  state.log.size < roomyLog →
    state.roster.Numbered ∧ state.roster.injected.toNat ≤ 3 * state.log.size

theorem names_of_beginning {state : ActorState}
    (nobody : state.roster = .empty) :
    Names state := by
  intro _
  rw [nobody]
  exact ⟨.empty, Nat.zero_le _⟩

end ActorState

namespace Actor

/-- A tick writes one row, and all parties keep different names. -/
theorem Live.tick_names {actor : Actor} (live : actor.Live) :
    actor.tick.2.state.log.size = actor.state.log.size + 1 ∧
      (Names actor.state → Names actor.tick.2.state) := by
  have ensures := (Behavior.ensures_notes actor.inbox_lt_bound).paid
    Behavior.pays_protocolRoot
  obtain ⟨_, _, ⟨notes, _⟩, paid⟩ := live.tick_of_ensures ensures
  have rows : actor.tick.2.state.log.size = actor.state.log.size + 1 := by
    rw [notes.log]
    exact Array.size_push _
  refine ⟨rows, fun names roomy => ?_⟩
  rw [rows, roomyLog] at roomy
  obtain ⟨numbered, count⟩ := names (by rw [roomyLog]; omega)
  obtain ⟨numberedThen, countThen⟩ := paid (by
    have same : actor.state.clocked.roster = actor.state.roster := rfl
    rw [same]
    omega) numbered
  have same : actor.state.clocked.roster = actor.state.roster := rfl
  rw [same] at countThen
  exact ⟨numberedThen, by omega⟩

/-- In every run all parties have different names, and rows are written by
ticks only. -/
theorem Live.play_names {actor : Actor}
    (live : actor.Live)
    (names : Names actor.state)
    (events : List Event) :
    Names (actor.play events).state ∧
      (actor.play events).state.log.size ≤
        actor.state.log.size + events.length := by
  induction events generalizing actor with
  | nil => exact ⟨names, Nat.le_refl _⟩
  | cons event events ih =>
    have next : (actor.react event).Live ∧
        Names (actor.react event).state ∧
        (actor.react event).state.log.size ≤ actor.state.log.size + 1 := by
      cases event with
      | deliver => exact ⟨live, names, Nat.le_succ _⟩
      | tick =>
        obtain ⟨written, keeps⟩ := live.tick_names
        exact ⟨live.tick.1, keeps names, Nat.le_of_eq written⟩
    obtain ⟨liveNext, namesNext, row⟩ := next
    obtain ⟨namesLast, rows⟩ := ih liveNext namesNext
    refine ⟨namesLast, Nat.le_trans rows ?_⟩
    rw [List.length_cons]
    omega

end Actor

end Disclosure
