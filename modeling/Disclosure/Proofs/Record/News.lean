import Disclosure.Proofs.Record.Ordering

/-!
# News of a case

An actor sends the news of a flag when it sets the flag itself, and it does so where
the flag was not set before.  So there is one message for each flag that is set on
the side of the vendor.  What is public may also have been heard from others, and
then there is none.  Only that the vulnerability is public may be said again.
-/

namespace Disclosure

/-- How often the news of a flag may have been sent, by whether it is set. -/
def CaseFlag.Tallies (flag : CaseFlag) (isSet : Bool) (times : Nat) : Prop :=
  match flag with
  | vendorAware | fixReady | fixDeployed => times = isSet.toNat
  | publicAware => True
  | exploitPublic | attacksObserved => times ≤ isSet.toNat

namespace CaseFlag.Tallies

variable {flag : CaseFlag} {isSet : Bool} {times : Nat}

/-- A flag that nobody has set is not in the news. -/
theorem unset (flag : CaseFlag) : flag.Tallies false 0 := by
  cases flag with
  | vendorAware | fixReady | fixDeployed => rfl
  | publicAware => trivial
  | exploitPublic | attacksObserved => exact Nat.le_refl 0

/-- What is public may become known without any news. -/
theorem hear
    (tallies : flag.Tallies isSet times)
    (others : flag.isPublic = true) :
    flag.Tallies true times := by
  cases flag with
  | vendorAware | fixReady | fixDeployed => cases others
  | publicAware => trivial
  | exploitPublic | attacksObserved =>
    exact Nat.le_trans tallies (Bool.toNat_le isSet)

/-- A flag that was not set is set with one message. -/
theorem raise
    (tallies : flag.Tallies isSet times)
    (new : flag = .publicAware ∨ isSet = false) :
    flag.Tallies true (times + 1) := by
  rcases new with rfl | rfl
  · trivial
  · cases flag with
    | vendorAware | fixReady | fixDeployed => exact congrArg (· + 1) tallies
    | publicAware => trivial
    | exploitPublic | attacksObserved => exact Nat.succ_le_succ tallies

end CaseFlag.Tallies

namespace Record

/-- The news of each flag were sent as often as the flag allows. -/
def Tallied (record : Record) : Prop :=
  ∀ flag, CaseFlag.Tallies flag (record.caseState.has flag)
    (record.said.count flag.news)

variable {record before after : Record} {flag : CaseFlag}

/-- The news of a flag count for this flag only. -/
theorem count_report (record : Record) (flag other : CaseFlag) :
    (record.say flag.news).said.count other.news =
      record.said.count other.news + if flag = other then 1 else 0 := by
  rw [said_say, List.count_append, List.count_singleton]
  simp [CaseFlag.news_injective.eq_iff]

namespace Tallied

theorem note
    (tallied : record.Tallied)
    (others : flag.isPublic = true) :
    (record.note flag).Tallied := by
  intro other
  rw [Record.note, CaseState.has_insert]
  by_cases same : flag = other
  · subst same
    rw [beq_self_eq_true, Bool.true_or]
    exact (tallied flag).hear others
  · rw [beq_eq_false_iff_ne.mpr same, Bool.false_or]
    exact tallied other

theorem raise
    (tallied : record.Tallied)
    (new : flag = .publicAware ∨ record.caseState.has flag = false) :
    ((record.note flag).say flag.news).Tallied := by
  intro other
  have noted : ((record.note flag).say flag.news).caseState =
      record.caseState.insert flag :=
    rfl
  rw [count_report, noted, CaseState.has_insert]
  by_cases same : flag = other
  · subst same
    rw [beq_self_eq_true, Bool.true_or, if_pos rfl]
    exact (tallied flag).raise new
  · rw [beq_eq_false_iff_ne.mpr same, Bool.false_or, if_neg same]
    exact tallied other

theorem leaves
    (tallied : before.Tallied)
    (leaves : LeavesCase before after) :
    after.Tallied := by
  intro flag
  rw [leaves.caseState, ← after.count_about, flag.topic_news, leaves.news,
    ← flag.topic_news, before.count_about]
  exact tallied flag

end Tallied

/-- An actor sets a flag only where it is not set, unless it says again that the
vulnerability is public.  A fix that is ready is not made once more, since its
vendor is aware. -/
theorem Ordered.new_of_warranted
    (ordered : record.Ordered)
    (warranted : record.Warrants flag) :
    flag = .publicAware ∨ record.caseState.has flag = false := by
  cases flag with
  | publicAware => exact .inl rfl
  | vendorAware | exploitPublic => exact .inr warranted.2
  | fixDeployed => exact .inr warranted.2.2
  | attacksObserved => exact .inr warranted
  | fixReady =>
    right
    rw [← Bool.not_eq_true]
    intro ready
    have missing := warranted.2.1
    rw [CaseState.vendorHasFix, ordered.own.ready ready] at missing
    exact Bool.false_ne_true (missing.symm.trans ready)

/-- The flags are in order, and the news of them are tallied. -/
structure Informed (record : Record) : Prop where
  ordered : record.Ordered
  tallied : record.Tallied

namespace Informed

/-- Entries about the case keep count of its news. -/
theorem caseEntry
    (informed : before.Informed)
    (entry : CaseEntry before after) :
    after.Tallied := by
  cases entry with
  | hear others => exact informed.tallied.note others
  | expose =>
    -- The exploit is noted without news of its own.
    have exposed : (before.note .exploitPublic).Tallied :=
      informed.tallied.note rfl
    exact @Tallied.raise _ .publicAware exposed (.inl rfl)
  | raise warranted =>
    exact informed.tallied.raise (informed.ordered.new_of_warranted warranted)

theorem entry (informed : before.Informed) (entry : Entry before after) :
    after.Informed := by
  refine ⟨informed.ordered.entry entry, ?_⟩
  rcases entry.case_or_leaves with entry | leaves
  · exact informed.caseEntry entry
  · exact informed.tallied.leaves leaves

theorem beginning (name : String) (roles : Roles) (abilities : Capabilities) :
    (Record.beginning name roles abilities).Informed := by
  refine ⟨.beginning name roles abilities, ?_⟩
  intro flag
  have unset : (Record.beginning name roles abilities).caseState.has flag =
      false := by
    cases flag <;> rfl
  rw [unset]
  exact .unset flag

end Informed

end Record

/--
The news of a case are sent once, after any deliveries and ticks of an actor and
whatever is decided: that a vendor is aware, that a fix is ready and that it is
deployed, exactly if the flag is set; that an exploit is public and that attacks
were observed, at most once, and only if the flag is set.
-/
theorem case_news_is_announced_once
    (name : String)
    (roles : Roles)
    (abilities : Capabilities)
    (chance : Chance)
    (policy : Policy)
    (events : List Actor.Event) :
    ∃ actor state, Actor.start name roles abilities chance policy = .ok actor ∧
      (actor.play events).state = state ∧
      let said := state.sent.toList.map Message.type
      said.count .vendorAware =
          (if state.caseState.vendorAware then 1 else 0) ∧
        said.count .fixReady =
          (if state.caseState.fixReady then 1 else 0) ∧
        said.count .fixDeployed =
          (if state.caseState.fixDeployed then 1 else 0) ∧
        said.count .exploitPublished ≤
          (if state.caseState.exploitPublic then 1 else 0) ∧
        said.count .attacksObserved ≤
          if state.caseState.attacksObserved then 1 else 0 := by
  obtain ⟨actor, started, informed⟩ := Actor.exists_recorded
    (fun _ _ => Record.Informed.entry) (.beginning name roles abilities)
    chance policy events
  have tallied := informed.tallied
  refine ⟨actor, _, started, rfl, ?_⟩
  simp only [← Bool.cond_eq_ite]
  exact ⟨tallied .vendorAware, tallied .fixReady, tallied .fixDeployed,
    tallied .exploitPublic, tallied .attacksObserved⟩

end Disclosure
