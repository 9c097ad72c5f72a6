import Disclosure.Proofs.Simulation.Acquaintance

/-!
# No mail goes astray

In a case with different participants every message to one party finds this party in
the case, since whoever is told is introduced in the same tick and admitted before
the mail is routed.  So each copy of each message is either delivered, or dropped
because its recipient has closed the report.
-/

namespace Disclosure

namespace LockStep

variable {lockStep : LockStep}

/-- Other chance to draw on changes nothing about whom a member knows. -/
theorem Acquainted.redraw (acquainted : lockStep.Acquainted)
    (draws : Nat → Option Chance) :
    (lockStep.redraw draws).Acquainted := by
  have same : ∀ (member : Member) (chance : Option Chance),
      (ActorState.Books member.actor.state →
        ActorState.Books (member.redraw chance).actor.state) ∧
      (member.redraw chance).actor.state.addressees =
        member.actor.state.addressees := by
    intro member chance
    cases chance with
    | none => exact ⟨id, rfl⟩
    | some => exact ⟨fun books => books.speak (.silent rfl rfl rfl), rfl⟩
  constructor
  · intro member among
    rcases exists_of_mem_redraw draws among with ⟨earlier, listed, chance, rfl⟩
    exact (same earlier chance).1 (acquainted.books earlier listed)
  · intro member among name told
    rcases exists_of_mem_redraw draws among with ⟨earlier, listed, chance, rfl⟩
    rw [(same earlier chance).2] at told
    rw [knows_redraw]
    exact acquainted.known earlier listed name told

/-- Founders have not told anybody. -/
theorem acquainted_founders {participants : List Enrollment}
    {founders : List Member} (seed : Option UInt64) (entropy : Nat → Chance)
    (found : List.Forall₂ Founds participants founders) :
    Acquainted { empty seed entropy with members := founders } := by
  have unacquainted : ∀ member ∈ founders,
      ActorState.Books member.actor.state ∧
        member.actor.state.addressees = [] := by
    intro member among
    rcases exists_of_pairs found among with ⟨_, _, founds⟩
    exact Begins.unacquainted founds fun _ => ⟨rfl, rfl⟩
  constructor
  · exact fun member among => (unacquainted member among).1
  · intro member among
    rw [(unacquainted member among).2]
    exact List.forall_mem_nil _

/-- How many copies there are of the messages of the first rounds: one of a message
to one party, and of a broadcast one for each member who is in the case after the
round, but its sender. -/
def copiesSent (cases : Nat → LockStep)
    (draws : Nat → Nat → Option Chance)
    (count : Nat) : Nat :=
  ((List.range count).map fun round =>
    (((cases round).redraw (draws round)).posts.map fun posted =>
      posted.message.copies (cases (round + 1)).members.length).sum).sum

/-- Nothing was undelivered so far, and every copy was counted. -/
theorem Attended.accounts {seed : Option UInt64} {entropy : Nat → Chance}
  {participants : List Enrollment}
    {draws : Nat → Nat → Option Chance}
    {cases : Nat → LockStep}
    (attended : Attended seed entropy participants draws cases)
    (count : Nat) :
    (cases count).Acquainted ∧ (cases count).undelivered = 0 ∧
      (cases count).counted = copiesSent cases draws count := by
  induction count with
  | zero =>
    obtain ⟨founders, begun, found⟩ := attended.begins
    rw [begun]
    exact ⟨acquainted_founders seed entropy found, rfl, rfl⟩
  | succ count ih =>
    rcases ih with ⟨acquainted, missed, counted⟩
    obtain ⟨acquaintedThen, missedThen, countedThen⟩ :=
      (acquainted.redraw (draws count)).round
        ((attended.attends count).redraw (draws count))
        (attended.round count)
    refine ⟨acquaintedThen, missedThen.trans missed, ?_⟩
    rw [countedThen, copiesSent, List.range_succ, List.map_append,
      List.sum_append, List.map_singleton, List.sum_singleton]
    exact congrArg (· + _) counted

end LockStep

open LockStep

/--
No mail goes astray.  In a case whose participants have different names and follow
the default policy, no round fails, and after each number of rounds no message was
without a recipient and all actors go by different names.  All participants that any
of them has on its roster are actors of the case.  The copies that were delivered
and those that were dropped are together one for each message to one party, and for
each broadcast as many as there were actors in its round but one.
-/
theorem no_mail_goes_astray
    (seed : Option UInt64)
    (entropy : Nat → Chance)
    (participants : List Enrollment)
    (draws : Nat → Nat → Option Chance)
    (distinct : (participants.map Enrollment.name).Nodup) :
    ∃ cases : Nat → LockStep,
      (∀ count, afterRedrawn seed entropy participants draws count =
        .ok (cases count)) ∧
      ∀ count,
        (cases count).undelivered = 0 ∧
        ((cases count).members.map fun member => member.actor.name).Nodup ∧
        (∀ member ∈ (cases count).members,
          ∀ participant ∈ member.actor.state.roster.participants,
            ∃ other ∈ (cases count).members,
              other.actor.name = participant.name) ∧
        (cases count).delivered + (cases count).dropped =
          copiesSent cases draws count := by
  obtain ⟨cases, attended⟩ := exists_attended seed entropy draws distinct
  refine ⟨cases, attended.reached, fun count => ?_⟩
  obtain ⟨acquainted, missed, counted⟩ := attended.accounts count
  have orderly := (attended.attends count).orderly
  have names : ((cases count).members.map fun member =>
      member.actor.name) = (cases count).members.map Member.address :=
    List.map_congr_left orderly.named
  refine ⟨missed, ?_, ?_, counted⟩
  · rw [names]
    exact orderly.distinct
  · intro member among participant listed
    have told : participant.name ∈ member.actor.state.addressees := by
      rw [(acquainted.books member among).addressees]
      exact List.mem_map_of_mem listed
    have known := knows_iff.mp (acquainted.known member among _ told)
    rw [← names] at known
    exact List.mem_map.mp known

/-- A vendor that coordinates as well and brings in another party. -/
def withCoordinator : List Enrollment :=
  [⟨"finder", .ofList [.finder]⟩, ⟨"vendor", .ofList [.vendor, .coordinator]⟩]

theorem newcomer_joins :
    (afterRedrawn (some 66) default withCoordinator undrawn 3).toOption.map
        (fun lockStep =>
          (lockStep.members.map fun member => member.actor.name,
            lockStep.delivered + lockStep.dropped)) =
      some (["finder", "vendor", "other-2"], 29) := by
  decide +kernel

theorem no_mail_goes_astray_with_newcomer :
    ∃ cases : Nat → LockStep,
      (∀ count, afterRedrawn (some 66) default withCoordinator undrawn count =
        .ok (cases count)) ∧
      (∀ count, (cases count).undelivered = 0) ∧
      ((cases 3).members.map fun member => member.actor.name) =
        ["finder", "vendor", "other-2"] ∧
      copiesSent cases undrawn 3 = 29 := by
  have distinct : (withCoordinator.map Enrollment.name).Nodup := by
    decide
  obtain ⟨cases, reached, accounts⟩ :=
    no_mail_goes_astray (some 66) default withCoordinator undrawn distinct
  have joins := newcomer_joins
  rw [reached 3] at joins
  have both := Option.some.inj joins
  refine ⟨cases, reached, fun count => (accounts count).1,
    congrArg Prod.fst both, ?_⟩
  rw [← (accounts 3).2.2.2]
  exact congrArg Prod.snd both

end Disclosure
