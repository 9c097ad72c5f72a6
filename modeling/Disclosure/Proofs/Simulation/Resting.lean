import Disclosure.Proofs.Simulation.Rounds

/-!
# Closed members rest

Who has closed the report does not tick any more and gets no more mail, although the
others go on to address it.  So it stays as it is in every further round, and once
all members are closed the whole case stays as it is, with all of its counters.
-/

namespace Disclosure

namespace LockStep

variable {lockStep next : LockStep} {members : List Member} {member : Member}
  {number : Nat}

/-! ## One round -/

/-- The ticks leave closed members as they are. -/
theorem tickAll_rests (members : List Member) :
    List.Forall₂
      (fun before after =>
        before.actor.isClosed = true → after = before)
      members (tickAll members).members := by
  refine tickAll_pairs fun member _ => ?_
  by_cases closed : member.actor.isClosed = true
  · exact ⟨member, by rw [tickMember_of_closed closed], fun _ => rfl⟩
  · rw [tickMember, if_neg closed]
    exact ⟨_, rfl, fun impossible => absurd impossible closed⟩

theorem tickAll_of_closed
    (closed : ∀ member ∈ members, member.actor.isClosed = true) :
    tickAll members = ⟨members, [], []⟩ := by
  have rest : members.map tickMember =
      members.map fun member => ⟨[member], [], []⟩ :=
    List.map_congr_left fun member among =>
      tickMember_of_closed (closed member among)
  simp [tickAll, rest, List.flatMap_map]

/-- A closed member stays where it is and as it is. -/
theorem Attends.keeps_closed
    (attends : lockStep.Attends)
    (went : lockStep.round = .ok next)
    (found : lockStep.members[number]? = some member)
    (closed : member.actor.isClosed = true) :
    next.members[number]? = some member := by
  obtain ⟨fresh, gathered, rfl, _, _, gathers, goes⟩ := attends.exists_routed
  cases goes.symm.trans went
  rcases List.getElem?_eq_some_iff.mp found with ⟨inside, rfl⟩
  have ticks := tickAll_rests lockStep.members
  have ticked : number < (tickAll lockStep.members).members.length :=
    ticks.length_eq ▸ inside
  have rested : (tickAll lockStep.members).members[number] =
      lockStep.members[number] :=
    ticks.get inside ticked closed
  -- Newcomers stand behind the others, so nobody's number has changed.
  rw [(foldl_route gathers.orderly _).1, List.getElem?_map,
    List.getElem?_append_left ticked, List.getElem?_eq_getElem ticked, rested,
    Option.map_some, Member.collect_of_closed closed]

/-- When all are closed, nothing happens any more. -/
theorem Attends.round_of_closed
    (attends : lockStep.Attends)
    (closed : lockStep.allClosed = true) :
    lockStep.round = .ok lockStep := by
  have rest := tickAll_of_closed (List.all_eq_true.mp closed)
  rw [LockStep.round, rest, attends.idle]
  have same : { lockStep with outbox := [] } = lockStep := by
    rw [← attends.idle]
  exact congrArg Except.ok same

/-! ## Further rounds -/

/-- A member is not given other streams from some round on. -/
def KeepsStreams (draws : Nat → Nat → Option Chance)
    (count number : Nat) : Prop :=
  ∀ round, count ≤ round → draws round number = none

theorem redraw_of_kept
    {draws : Nat → Option Chance}
    (kept : ∀ number < lockStep.members.length, draws number = none) :
    lockStep.redraw draws = lockStep := by
  have same : (lockStep.members.mapIdx fun number member =>
      member.redraw (draws number)) = lockStep.members := by
    refine List.ext_getElem List.length_mapIdx fun number _ inside => ?_
    rw [List.getElem_mapIdx, kept number inside]
    rfl
  rw [redraw, same]

section Further

variable {seed : Option UInt64} {entropy : Nat → Chance}
  {participants : List Enrollment}
  {draws : Nat → Nat → Option Chance}
  {cases : Nat → LockStep}
  (attended : Attended seed entropy participants draws cases)

include attended

theorem Attended.keeps_closed {count : Nat}
    (found : (cases count).members[number]? = some member)
    (closed : member.actor.isClosed = true)
    (keeps : KeepsStreams draws count number)
    (more : Nat) :
    (cases (count + more)).members[number]? = some member := by
  induction more with
  | zero => exact found
  | succ more ih =>
    have still : ((cases (count + more)).redraw
        (draws (count + more))).members[number]? = some member := by
      rw [redraw, List.getElem?_mapIdx, ih, Option.map_some,
        keeps _ (Nat.le_add_right count more)]
      rfl
    exact ((attended.attends _).redraw _).keeps_closed (attended.round _)
      still closed

theorem Attended.rests {count : Nat}
    (closed : (cases count).allClosed = true)
    (keeps : ∀ number < (cases count).members.length,
      KeepsStreams draws count number)
    (more : Nat) :
    cases (count + more) = cases count := by
  induction more with
  | zero => rfl
  | succ more ih =>
    have went := attended.round (count + more)
    rw [ih, redraw_of_kept fun number inside =>
      keeps number inside _ (Nat.le_add_right count more),
      (attended.attends count).round_of_closed closed] at went
    exact (Except.ok.inj went).symm

end Further

end LockStep

open LockStep

/--
Closed members rest.  In a case whose participants have different names and follow
the default policy, no round fails.  A member that is closed after some rounds is
the same member, in all that it knows and has, after any more rounds, provided that
nobody exchanges its streams; and once all members are closed, any more rounds leave
the whole case as it is.
-/
theorem closed_members_rest
    (seed : Option UInt64)
    (entropy : Nat → Chance)
    (participants : List Enrollment)
    (draws : Nat → Nat → Option Chance)
    (distinct : (participants.map Enrollment.name).Nodup) :
    ∃ cases : Nat → LockStep,
      (∀ count, afterRedrawn seed entropy participants draws count =
        .ok (cases count)) ∧
      ∀ count,
        (∀ (number : Nat) (member : Member),
          (cases count).members[number]? = some member →
          member.actor.isClosed = true →
          KeepsStreams draws count number →
          ∀ more, (cases (count + more)).members[number]? = some member) ∧
        ((cases count).allClosed = true →
          (∀ number < (cases count).members.length,
            KeepsStreams draws count number) →
          ∀ more, cases (count + more) = cases count) := by
  obtain ⟨cases, attended⟩ := exists_attended seed entropy draws distinct
  refine ⟨cases, attended.reached, fun count => ⟨?_, ?_⟩⟩
  · intro number member found closed keeps
    exact attended.keeps_closed found closed keeps
  · intro closed keeps
    exact attended.rests closed keeps

/-- A finder and a vendor, of whom the finder closes a round before the vendor. -/
def finderAndVendor : List Enrollment :=
  [⟨"finder", .ofList [.finder]⟩, ⟨"vendor", .ofList [.vendor]⟩]

theorem finder_closes_first :
    ((afterRedrawn (some 959) default finderAndVendor undrawn 2).toOption.map
        fun lockStep =>
          lockStep.members.map fun member => member.actor.isClosed) =
      some [true, false] := by
  decide +kernel

theorem vendor_closes_next :
    ((afterRedrawn (some 959) default finderAndVendor undrawn 3).toOption.map
        LockStep.allClosed) = some true := by
  decide +kernel

theorem closed_members_rest_of_finder_and_vendor :
    ∃ cases : Nat → LockStep,
      (∀ count, afterRedrawn (some 959) default finderAndVendor undrawn count =
        .ok (cases count)) ∧
      (∃ finder vendor,
        (cases 2).members = [finder, vendor] ∧
        finder.actor.isClosed = true ∧ vendor.actor.isClosed = false ∧
        ∀ more, (cases (2 + more)).members[0]? = some finder) ∧
      ∀ more, cases (3 + more) = cases 3 := by
  have distinct : (finderAndVendor.map Enrollment.name).Nodup := by
    decide
  have keeps : ∀ count number,
      KeepsStreams undrawn count number :=
    fun _ _ _ _ => rfl
  obtain ⟨cases, reached, rests⟩ :=
    closed_members_rest (some 959) default finderAndVendor undrawn distinct
  have first := finder_closes_first
  rw [reached 2] at first
  have next := vendor_closes_next
  rw [reached 3] at next
  refine ⟨cases, reached, ?_, ?_⟩
  · obtain ⟨finder, others, both, finderClosed, remaining⟩ :=
      List.map_eq_cons_iff.mp (Option.some.inj first)
    obtain ⟨vendor, rfl, vendorOpen⟩ := List.map_eq_singleton_iff.mp remaining
    have found : (cases 2).members[0]? = some finder := by
      rw [both]
      rfl
    exact ⟨finder, vendor, both, finderClosed, vendorOpen,
      (rests 2).1 0 finder found finderClosed (keeps 2 0)⟩
  · exact (rests 3).2 (Option.some.inj next) fun number _ => keeps 3 number

end Disclosure
