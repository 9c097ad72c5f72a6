import Disclosure.Proofs.Actor.Run
import Disclosure.Proofs.Contacts.Roster
import Disclosure.Proofs.Text.Lines
import Disclosure.Proofs.Tree.Toll
import Mathlib.Data.List.Nodup

/-!
# Names of candidates

Candidates are numbered, and the number is part of the generated name.  A tick
finds three candidates at most, so the numbers do not begin anew before an
astronomical number of rows is written in the log; until then all parties have
different names.
-/

namespace Disclosure

open ActorState

/-! ## Generated names -/

namespace Roster

/-- Behind the last dash of a generated name is its number. -/
theorem number_of_generatedName {kind other : String}
    {number another : UInt64}
    (same : generatedName kind number = generatedName other another) :
    number = another := by
  have chars := congrArg String.toList same
  simp only [generatedName, String.toList_append, Nat.toString_eq_repr,
    Nat.toList_repr, List.append_assoc] at chars
  have dash : '-'.isDigit = false := by decide
  exact UInt64.toNat_inj.mp (Text.append_number_inj dash chars).2

/-- All parties have different names, generated from the numbers so far. -/
structure Numbered (roster : Roster) : Prop where
  generated : ∀ name ∈ roster.names, ∃ entry ∈ candidateKinds,
    ∃ number ≤ roster.injected, name = generatedName entry.1 number
  distinct : roster.names.Nodup

namespace Numbered

variable {before after : Roster}

theorem empty : Numbered Roster.empty where
  generated := nofun
  distinct := List.nodup_nil

/-- Parties may change places. -/
theorem of_perm (numbered : Numbered before)
    (same : after.names.Perm before.names)
    (counted : after.injected = before.injected) :
    Numbered after where
  generated name among := by
    rw [counted]
    exact numbered.generated name (same.subset among)
  distinct := same.nodup_iff.mpr numbered.distinct

/-- Parties may leave. -/
theorem of_sublist (numbered : Numbered before)
    (left : after.names.Sublist before.names)
    (counted : after.injected = before.injected) :
    Numbered after where
  generated name among := by
    rw [counted]
    exact numbered.generated name (left.subset among)
  distinct := numbered.distinct.sublist left

/-- While the count does not begin anew, a new candidate has a new name. -/
theorem inject {roster : Roster} {kind : String} {roles : Roles}
    (numbered : Numbered roster)
    (wanted : (kind, roles) ∈ candidateKinds)
    (room : roster.injected.toNat + 1 < 2 ^ 64) :
    Numbered (roster.inject kind roles).2 ∧
      (roster.inject kind roles).2.injected.toNat =
        roster.injected.toNat + 1 := by
  have counted : (roster.injected + 1).toNat = roster.injected.toNat + 1 := by
    rw [UInt64.toNat_add]
    exact Nat.mod_eq_of_lt room
  have names : (roster.inject kind roles).2.names =
      roster.names ++ [generatedName kind (roster.injected + 1)] := by
    simp [Roster.inject, Roster.names, Participant.new]
  refine ⟨⟨?_, ?_⟩, counted⟩
  · intro name among
    rw [names] at among
    rcases List.mem_append.mp among with known | new
    · rcases numbered.generated name known with
        ⟨entry, listed, number, bounded, rfl⟩
      refine ⟨entry, listed, number, ?_, rfl⟩
      have grows : roster.injected ≤ roster.injected + 1 := by
        rw [UInt64.le_iff_toNat_le, counted]
        exact Nat.le_succ _
      exact UInt64.le_trans bounded grows
    · exact ⟨_, wanted, roster.injected + 1, UInt64.le_refl _,
        List.mem_singleton.mp new⟩
  · rw [names, ← List.concat_eq_append, List.nodup_concat]
    refine ⟨?_, numbered.distinct⟩
    intro known
    rcases numbered.generated _ known with
      ⟨entry, _, number, bounded, same⟩
    have equal := number_of_generatedName same
    rw [← equal, UInt64.le_iff_toNat_le, counted] at bounded
    omega

end Numbered

/-! ## Other changes of the roster -/

theorem names_modifyPotential {name : String}
    {change : Participant → Participant} {roster : Roster}
    (keepsName : ∀ candidate, candidate.name = name →
      (change candidate).name = name) :
    (roster.modifyPotential name change).names = roster.names := by
  have kept : ∀ candidates : List Participant,
      (modifyFirst name change candidates).map Participant.name =
        candidates.map Participant.name := by
    intro candidates
    induction candidates with
    | nil => rfl
    | cons candidate candidates ih =>
      by_cases named : candidate.name = name
      · simp [modifyFirst, named, keepsName candidate named]
      · simp [modifyFirst, named, ih]
  simp only [names, modifyPotential, List.map_append, kept]

theorem names_removePotential (roster : Roster) (name : String) :
    (roster.removePotential name).names.Sublist roster.names := by
  simp only [names, removePotential]
  exact ((List.Sublist.refl _).append List.eraseP_sublist).map _

theorem names_engage (roster : Roster) (name : String) :
    (roster.engage name).2.names.Perm roster.names := by
  rw [engage]
  split
  next => exact .refl _
  next candidate found =>
    simp only [names, removePotential, List.append_assoc]
    apply List.Perm.map
    apply List.Perm.append_left
    exact perm_eraseP found

theorem injected_engage (roster : Roster) (name : String) :
    (roster.engage name).2.injected = roster.injected := by
  rw [engage]
  split
  · rfl
  · rfl

end Roster

end Disclosure
