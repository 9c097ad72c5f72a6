import Disclosure.Proofs.Record.Deeds

/-!
# Authority over the side of the vendor

Only vendors are aware of a vulnerability in the sense of the case, only vendors
that can develop fixes have one, and only those among them that are deployers and
can deploy fixes ever deploy it.  The same holds of who sends the news of it.  No
message can change this: what others announce about the side of the vendor sets no
flag.
-/

namespace Disclosure

/-- What an actor must be, and be able to do, for a flag of the case to be set or
for the news of it to be sent.  The side of the public is open to everybody. -/
def CaseFlag.Authorized (flag : CaseFlag) (roles : Roles)
    (abilities : Capabilities) : Prop :=
  match flag with
  | vendorAware => roles.vendor = true
  | fixReady => roles.vendor = true ∧ abilities.developFix = true
  | fixDeployed =>
    (roles.vendor = true ∧ roles.deployer = true) ∧
      abilities.developFix = true ∧ abilities.deployFix = true
  | _ => True

theorem CaseFlag.authorized_of_isPublic {flag : CaseFlag} {roles : Roles}
    {abilities : Capabilities}
    (others : flag.isPublic = true) :
    flag.Authorized roles abilities := by
  cases flag with
  | publicAware | exploitPublic | attacksObserved => trivial
  | vendorAware | fixReady | fixDeployed => cases others

/-- The actor is what it was from the beginning, and no flag was set and no news
was sent without authority. -/
structure Record.Authorized (roles : Roles) (abilities : Capabilities)
    (record : Record) : Prop where
  sameRoles : record.roles = roles
  sameAbilities : record.abilities = abilities
  flags : ∀ flag, record.caseState.has flag = true →
    flag.Authorized roles abilities
  news : ∀ flag, CaseFlag.news flag ∈ record.said →
    flag.Authorized roles abilities

namespace Record

variable {roles : Roles} {abilities : Capabilities}
  {record before after : Record}

/-- News of the case are all that is said about flags. -/
theorem news_mem_said (flag : CaseFlag) :
    flag.news ∈ record.said ↔ flag.news ∈ record.about .news := by
  simp [about, flag.topic_news]

namespace Authorized

/-- Whatever warrants that a flag is set, gives the authority to set it.  To
deploy a fix takes a fix, and so the authority to have one. -/
theorem of_warranted {flag : CaseFlag}
    (authorized : record.Authorized roles abilities)
    (warranted : record.Warrants flag) :
    flag.Authorized roles abilities := by
  have sameRoles := authorized.sameRoles
  have sameAbilities := authorized.sameAbilities
  cases flag with
  | publicAware | exploitPublic | attacksObserved => trivial
  | vendorAware =>
    rw [← sameRoles]
    exact warranted.1
  | fixReady =>
    rw [← sameRoles, ← sameAbilities]
    exact warranted.1
  | fixDeployed =>
    rcases warranted with ⟨⟨deployer, deploys⟩, hasFix, _⟩
    simp only [CaseState.vendorHasFix, Bool.and_eq_true] at hasFix
    rcases authorized.flags .fixReady hasFix.2 with ⟨vendor, develops⟩
    rw [sameRoles] at deployer
    rw [sameAbilities] at deploys
    exact ⟨⟨vendor, deployer⟩, develops, deploys⟩

theorem note
    (authorized : record.Authorized roles abilities)
    (flag : CaseFlag)
    (allowed : flag.Authorized roles abilities) :
    (record.note flag).Authorized roles abilities where
  sameRoles := authorized.sameRoles
  sameAbilities := authorized.sameAbilities
  flags := by
    intro other has
    rw [Record.note, CaseState.has_insert, Bool.or_eq_true] at has
    rcases has with same | earlier
    · rw [← eq_of_beq same]
      exact allowed
    · exact authorized.flags other earlier
  news := authorized.news

theorem report
    (authorized : record.Authorized roles abilities)
    (flag : CaseFlag)
    (allowed : flag.Authorized roles abilities) :
    (record.say flag.news).Authorized roles abilities where
  sameRoles := authorized.sameRoles
  sameAbilities := authorized.sameAbilities
  flags := authorized.flags
  news := by
    intro other spoken
    rw [said_say] at spoken
    rcases List.mem_append.mp spoken with earlier | now
    · exact authorized.news other earlier
    · rw [CaseFlag.news_injective (List.mem_singleton.mp now)]
      exact allowed

/-- Every entry keeps to the authority of the actor. -/
theorem entry
    (authorized : before.Authorized roles abilities)
    (entry : Entry before after) :
    after.Authorized roles abilities := by
  rcases entry.sameOffice with ⟨roles, abilities⟩
  rcases entry.case_or_leaves with entry | leaves
  · cases entry with
    | @hear flag others =>
      exact authorized.note flag (CaseFlag.authorized_of_isPublic others)
    | expose =>
      have noted := (authorized.note .exploitPublic trivial).note
        .publicAware trivial
      exact noted.report .publicAware trivial
    | @raise flag warranted =>
      have allowed := authorized.of_warranted warranted
      exact (authorized.note flag allowed).report flag allowed
  · constructor
    · exact roles.trans authorized.sameRoles
    · exact abilities.trans authorized.sameAbilities
    · rw [leaves.caseState]
      exact authorized.flags
    · intro flag spoken
      rw [news_mem_said, leaves.news, ← news_mem_said] at spoken
      exact authorized.news flag spoken

theorem beginning (name : String) (roles : Roles) (abilities : Capabilities) :
    (Record.beginning name roles abilities).Authorized roles abilities where
  sameRoles := rfl
  sameAbilities := rfl
  flags flag has := by cases flag <;> cases has
  news flag spoken := by cases spoken

end Authorized

end Record

/--
Progress on the side of the vendor takes authority: after any deliveries and ticks
of an actor, whatever is decided and whatever others send, a flag of the case is
set, and the news of it was sent, only if the roles and abilities that the actor
began with allow it.  For the awareness of a vendor the actor is a vendor; for a
fix it is one that can develop fixes; for a deployed fix it is also a deployer that
can deploy them.
-/
theorem vendor_progress_takes_authority
    (name : String)
    (roles : Roles)
    (abilities : Capabilities)
    (chance : Chance)
    (policy : Policy)
    (events : List Actor.Event) :
    ∃ actor, Actor.start name roles abilities chance policy = .ok actor ∧
      (actor.play events).state.record.Authorized roles abilities :=
  Actor.exists_recorded (fun _ _ => Record.Authorized.entry)
    (.beginning name roles abilities) chance policy events

end Disclosure
