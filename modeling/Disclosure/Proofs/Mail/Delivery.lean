import Disclosure.Proofs.Simulation.Rounds

/-!
# Each message arrives once and in order

In a case with the default policies every member goes through all of its mail in
each round.  So what it has received so far, together with what waits in its
inbox, is what was routed to it round by round: the messages that are for it,
from the rounds after which it was in the case and open.
-/

namespace Disclosure

namespace LockStep

variable {lockStep : LockStep}

/-- What is routed to an address in the first rounds: from each round, the mail
that is for it if it is the address of an open member afterwards. -/
def routed (cases : Nat → LockStep)
    (draws : Nat → Nat → Option Chance)
    (address : String) (count : Nat) : List Message :=
  (List.range count).flatMap fun round =>
    if (cases (round + 1)).hasOpen address then
      ((cases round).redraw (draws round)).mailFor address
    else []

/-- All rounds of a run, one after the other. -/
structure Course (cases : Nat → LockStep)
    (draws : Nat → Nat → Option Chance) : Prop where
  begins : ∀ member ∈ (cases 0).members, member.Fresh
  advances : ∀ round,
    Advances ((cases round).redraw (draws round)) (cases (round + 1))

section Course

variable {cases : Nat → LockStep}
  {draws : Nat → Nat → Option Chance}

theorem routed_succ (address : String) (count : Nat) :
    routed cases draws address (count + 1) =
      routed cases draws address count ++
        if (cases (count + 1)).hasOpen address then
          ((cases count).redraw (draws count)).mailFor address
        else [] := by
  rw [routed, List.range_succ, List.flatMap_append, List.flatMap_singleton]
  rfl

/-- With an address of its own, a member is open if and only if one is. -/
theorem Orderly.hasOpen_eq (orderly : Orderly lockStep.members)
    {member : Member} (among : member ∈ lockStep.members) :
    lockStep.hasOpen member.address = !member.actor.isClosed := by
  rw [Bool.eq_iff_iff, hasOpen, List.any_eq_true]
  constructor
  · rintro ⟨other, listed, opened⟩
    rcases (Bool.and_eq_true ..).mp opened with ⟨same, opened⟩
    cases orderly.eq_of_address listed among (beq_iff_eq.mp same)
    exact opened
  · intro opened
    exact ⟨member, among, by simpa using opened⟩

/-- Nothing was routed so far to who has not been in the case. -/
theorem Course.routed_unknown (course : Course cases draws)
    {address : String} {count : Nat}
    (unknown : (cases count).knows address = false) :
    routed cases draws address count = [] := by
  induction count with
  | zero => rfl
  | succ count ih =>
    have unknownBefore : (cases count).knows address = false := by
      rw [Bool.eq_false_iff] at unknown ⊢
      intro known
      exact unknown ((course.advances count).stays address
        ((knows_redraw _ address).trans known))
    have nobody : (cases (count + 1)).hasOpen address = false := by
      rw [Bool.eq_false_iff] at unknown ⊢
      intro opened
      rcases List.any_eq_true.mp opened with ⟨member, among, opened⟩
      exact unknown (List.any_eq_true.mpr
        ⟨member, among, ((Bool.and_eq_true ..).mp opened).1⟩)
    rw [routed_succ, ih unknownBefore, nobody]
    rfl

/-- What was heard and what waits is what was routed. -/
theorem Course.accounts (course : Course cases draws) (count : Nat) :
    ∀ member ∈ (cases count).members,
      member.actor.state.heard ++
          member.actor.state.inbox.map Message.type =
        (routed cases draws member.address count).map Message.type := by
  induction count with
  | zero =>
    intro member among
    have fresh := course.begins member among
    rw [fresh.heard, fresh.inbox]
    rfl
  | succ count ih =>
    intro member among
    have advances := course.advances count
    have heard : member.actor.state.heard =
        (routed cases draws member.address count).map Message.type := by
      rcases (advances.continues member among).of_redraw with
        ⟨unknown, nothing⟩ | ⟨earlier, listed, same, heard⟩
      · rw [nothing, course.routed_unknown unknown]
        rfl
      · rw [heard, ih earlier listed, same]
    rw [heard, advances.inbox member among, routed_succ,
      advances.orderly.hasOpen_eq among, List.map_append]
    cases member.actor.isClosed with
    | true | false => rfl

end Course

/-- A run that is attended is a course of rounds. -/
theorem exists_course (seed : Option UInt64) (entropy : Nat → Chance)
    {participants : List Enrollment}
    (draws : Nat → Nat → Option Chance)
    (distinct : (participants.map Enrollment.name).Nodup) :
    ∃ cases,
      (∀ count, afterRedrawn seed entropy participants draws count =
        .ok (cases count)) ∧
      Course cases draws := by
  obtain ⟨cases, attended⟩ := exists_attended seed entropy draws distinct
  obtain ⟨founders, begun, found⟩ := attended.begins
  refine ⟨cases, attended.reached, ?_, fun count => ?_⟩
  · rw [begun]
    intro member among
    rcases exists_of_pairs found among with ⟨_, _, founds⟩
    exact founds.fresh
  · obtain ⟨next, ran, advances⟩ :=
      ((attended.attends count).redraw (draws count)).round
    cases ran.symm.trans (attended.round count)
    exact advances

end LockStep

open LockStep

/--
Each message arrives once and in order.  In a case whose participants have
different names and follow the default policy, no round fails, and after each
round every member goes by an address of its own.  The types of the messages that
a member has received so far, followed by those in its inbox, are then the types
of the messages that were routed to it, round by round.  The inbox of an open
member holds the messages of the last round and that of a closed one is empty.
-/
theorem mail_arrives_once_in_order
    (seed : Option UInt64)
    (entropy : Nat → Chance)
    (participants : List Enrollment)
    (draws : Nat → Nat → Option Chance)
    (distinct : (participants.map Enrollment.name).Nodup) :
    ∃ cases : Nat → LockStep,
      (∀ count, afterRedrawn seed entropy participants draws count =
        .ok (cases count)) ∧
      ∀ count, Orderly (cases (count + 1)).members ∧
        ∀ member ∈ (cases (count + 1)).members,
          member.actor.state.heard ++
              member.actor.state.inbox.map Message.type =
            (routed cases draws member.address (count + 1)).map
              Message.type ∧
          member.actor.state.inbox =
            if member.actor.isClosed then []
            else ((cases count).redraw (draws count)).mailFor
              member.address := by
  obtain ⟨cases, went, course⟩ := exists_course seed entropy draws distinct
  refine ⟨cases, went, fun count => ⟨(course.advances count).orderly, ?_⟩⟩
  intro member among
  exact ⟨course.accounts (count + 1) member among,
    (course.advances count).inbox member among⟩

/-- A finder and a vendor, whose chance is left to the seed. -/
theorem mail_arrives_between_finder_and_vendor :
    (([⟨"finder", .ofList [.finder]⟩, ⟨"vendor", .ofList [.vendor]⟩] :
      List Enrollment).map Enrollment.name).Nodup ∧
    ∃ cases : Nat → LockStep,
      (∀ count, afterRedrawn (some 7) default
          [⟨"finder", .ofList [.finder]⟩, ⟨"vendor", .ofList [.vendor]⟩]
          undrawn count =
        .ok (cases count)) ∧
      ∀ count, Orderly (cases (count + 1)).members ∧
        ∀ member ∈ (cases (count + 1)).members,
          member.actor.state.heard ++
              member.actor.state.inbox.map Message.type =
            (routed cases undrawn member.address
              (count + 1)).map Message.type ∧
          member.actor.state.inbox =
            if member.actor.isClosed then []
            else ((cases count).redraw fun _ => none).mailFor
              member.address := by
  have distinct : (([⟨"finder", .ofList [.finder]⟩,
      ⟨"vendor", .ofList [.vendor]⟩] : List Enrollment).map
        Enrollment.name).Nodup := by
    decide
  exact ⟨distinct, mail_arrives_once_in_order _ _ _ _ distinct⟩

end Disclosure
