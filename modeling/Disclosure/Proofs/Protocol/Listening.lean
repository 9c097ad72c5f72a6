import Disclosure.Proofs.Protocol.Reading
import Disclosure.Proofs.Protocol.Root

/-!
# Listening to all mail

When decisions are made by their weights, no decision on the way to the mail is
left open and none in the handling of a message.  So an actor whose report is
open, and who has no message in hand, goes through all of its mail in each tick.
-/

namespace Disclosure

open ActorState

/-! ## Weights -/

theorem Weight.sample_settled {weight : Weight} (stream : RandomStream)
    (settles : weight.settles = true) :
    (weight.sample stream).1 ≠ .running := by
  cases weight with
  | always | never => nofun
  | running | successOrRunning => cases settles
  | chance probability =>
    simp only [sample]
    exact Status.ofBool_ne_running _

namespace Law

/-- The policy is kept, and nothing is left open when it goes by the weights. -/
def settling : Law ActorState where
  holds before status after :=
    after.arbiter.policy = before.arbiter.policy ∧
      (before.arbiter.policy = .weighted → status ≠ .running)
  rest _ _ settled := ⟨rfl, fun _ => settled⟩
  trans := by
    rintro before middle after _ _ ⟨kept, _⟩ ⟨keptOn, settles⟩
    exact ⟨keptOn.trans kept, fun weighted => settles (kept.trans weighted)⟩
  settle := by
    rintro before after _ _ ⟨kept, _⟩ settled
    exact ⟨kept, fun _ => settled⟩

theorem settling_of_eq {before after : ActorState}
    (same : after.arbiter = before.arbiter) :
    settling.holds before .success after :=
  ⟨by rw [same], fun _ => nofun⟩

theorem plain_settling : settling.Plain where
  decide name weight state settles := by
    refine ⟨rfl, fun weighted => ?_⟩
    have sampled : (state.decide ⟨name, weight⟩).1 =
        (weight.sample state.stream).1 := by
      simp only [ActorState.decide, Blackboard.decide, Arbiter.settle, weighted]
      rfl
    exact sampled ▸ Weight.sample_settled state.stream settles
  moveReport target state := settling_of_eq (by rw [moveReport_eq])
  moveEmbargo target state := settling_of_eq (by rw [moveEmbargo_eq])
  setFlag flag state := settling_of_eq (by rw [setFlag, moveCase_eq])
  broadcast _ _ := settling_of_eq rfl

theorem incoming_settling : settling.Incoming where
  pop state := by
    rw [ActorState.popMessage]
    split
    · exact settling_of_eq rfl
    · exact settling.rest state .failure (by decide)
  push state := by
    rw [ActorState.pushMessage]
    split
    · exact settling_of_eq rfl
    · exact settling_of_eq rfl
  note state := by
    rw [ActorState.noteMessage]
    split
    · exact settling_of_eq rfl
    · exact settling_of_eq rfl
  drop _ := settling_of_eq rfl

end Law

namespace Behavior

variable {bound : Nat}

/-- A choice does not fail when its last alternative never does. -/
theorem ensures_fallback_last {name : String} (children : List Behavior)
    {last : Behavior} {state : ActorState}
    {post : Status → ActorState → Prop}
    (ensures : (Spec.fallback name (children ++ [last])).Ensures bound state
      post)
    (each : ∀ child ∈ children, child.Obeys .settling)
    (weighted : state.arbiter.policy = .weighted)
    (accepts : ∀ (before : ActorState) (weaker : Status → ActorState → Prop),
      before.arbiter.policy = .weighted → last.Ensures bound before weaker →
      last.Ensures bound before fun status after =>
        weaker status after ∧ status ≠ .failure) :
    (Spec.fallback name (children ++ [last])).Ensures bound state
      fun status after => post status after ∧ status ≠ .failure := by
  induction children generalizing state with
  | nil =>
    rw [List.nil_append, Spec.ensures_fallback_singleton] at ensures ⊢
    exact accepts state post weighted ensures
  | cons child children ih =>
    rw [List.cons_append, Spec.ensures_fallback_cons] at ensures ⊢
    apply (ensures.lawful (each child (by simp))).mono
    rintro status middle ⟨goesOn, kept, _⟩
    by_cases failed : status = .failure
    · rw [if_pos failed] at goesOn ⊢
      exact ih goesOn (fun other member => each other (by simp [member]))
        (kept.trans weighted)
    · rw [if_neg failed] at goesOn ⊢
      exact ⟨goesOn, failed⟩

/-- By the weights, looking for a vulnerability succeeds in the end, found or
not; it neither closes the report nor touches mail or contacts. -/
theorem ensures_weightedDiscover {state : ActorState}
    (weighted : state.arbiter.policy = .weighted)
    (opened : state.report ≠ .closed) :
    discoverVulnerability.Ensures bound state fun status after =>
      status = .success ∧ after.report ≠ .closed ∧
        (after.office, after.desk, after.contacts) =
          (state.office, state.desk, state.contacts) := by
  have plain := Law.plain_settling
  have covered : discoverVulnerability.Ensures bound state fun _ after =>
      after.report ≠ .closed := by
    apply (covers_discoverVulnerability state (Policy.settles_anyhow _)).mono
    rintro status after ⟨_, ponders | ⟨_, middle, ponders, _, _, rfl⟩⟩
    · rcases Ponders.exists_eq ponders with ⟨stream, arbiter, _, rfl⟩
      exact opened
    · apply (aside_discover middle).keepsOpen
      rcases Ponders.exists_eq ponders with ⟨stream, arbiter, _, rfl⟩
      exact opened
  have obeys := obeys_discoverVulnerability plain
  have eachObeys := obeys
  rw [discoverVulnerability, Spec.obeys_fallback] at eachObeys
  have accepted : discoverVulnerability.Ensures bound state
      fun status after => after.report ≠ .closed ∧ status ≠ .failure := by
    refine ensures_fallback_last [_, _] covered ?_ weighted ?_
    · exact fun child member => eachObeys child (by
        rcases List.mem_pair.mp member with rfl | rfl <;> simp)
    · intro before weaker weightedThen ensures
      rw [Spec.ensures_decision] at ensures ⊢
      refine ⟨ensures, ?_⟩
      have succeeds : Status.success ≠ .failure := by decide
      simp only [Blackboard.decide, Arbiter.settle, weightedThen]
      exact succeeds
  apply ((accepted.lawful obeys).lawful discover_keeps).mono
  rintro status after ⟨⟨⟨openedStill, accepts⟩, _, settles⟩, kept⟩
  refine ⟨?_, openedStill, kept⟩
  cases status with
  | success => rfl
  | failure => exact (accepts rfl).elim
  | running => exact (settles weighted rfl).elim

theorem ensures_weightedReading {state : ActorState}
    (weighted : state.arbiter.policy = .weighted)
    (opened : state.report ≠ .closed)
    (free : state.current = none)
    (small : state.inbox.length < bound) :
    receiveMessages.Ensures bound state fun _ after =>
      after.office = state.office ∧
      after.desk = ([], none, state.received ++ state.inbox.map Message.type) := by
  have settles : receiveMessages.Obeys .settling :=
    obeys_receiveMessages Law.plain_settling Law.incoming_settling
  apply (((ensures_reading small).lawful settles).lawful receive_keeps).mono
  rintro status after
    ⟨⟨⟨gone, middle, clears, halts⟩, _, settled⟩, kept⟩
  refine ⟨congrArg Prod.fst kept, ?_⟩
  have ends := (halts.leaves opened clears (settled weighted)).1 free
  have received : after.received = middle.received := by
    cases halts with
    | closed | idle | blocked => rfl
    | interrupted => exact (settled weighted rfl).elim
  have all : gone = state.inbox := by
    have mail := clears.mail
    rw [← halts.mail, ActorState.mail, ActorState.mail, free, ends.1, ends.2] at mail
    simpa using mail.symm
  rw [ActorState.desk, ends.1, ends.2, received, clears.received, all]

/-- By the weights, an open actor with no message in hand goes through all of
its mail in a tick, and notes what it received in the order of arrival. -/
theorem ensures_listening {state : ActorState}
    (weighted : state.arbiter.policy = .weighted)
    (opened : state.report ≠ .closed)
    (free : state.current = none)
    (small : state.inbox.length < bound) :
    protocolRoot.Ensures bound state fun _ after =>
      after.office = state.takeSnapshot.office ∧
      after.desk = ([], none, state.inbox.map Message.type) := by
  rw [protocolRoot, Spec.ensures_sequence_cons, takeSnapshot,
    Spec.ensures_effect, if_pos rfl, Spec.ensures_sequence_cons,
    ensures_reportNotIn, decide_eq_true (by exact opened), if_pos (by rfl),
    Spec.ensures_sequence_cons]
  have discovers : discoverVulnerability.Ensures bound state.takeSnapshot
      fun status after => status = .success ∧ after.report ≠ .closed ∧
        (after.office, after.desk, after.contacts) =
          (state.takeSnapshot.office, state.takeSnapshot.desk,
            state.takeSnapshot.contacts) :=
    ensures_weightedDiscover weighted opened
  apply discovers.mono
  rintro status found ⟨rfl, openedStill, kept⟩
  injection kept with office kept
  injection kept with desk contacts
  have weightedStill : found.arbiter.policy = .weighted :=
    (congrArg (fun office => office.2.2.2.1) office).trans weighted
  have inbox : found.inbox = state.inbox := congrArg Prod.fst desk
  have current : found.current = none :=
    (congrArg (fun desk => desk.2.1) desk).trans free
  have received : found.received = [] :=
    congrArg (fun desk => desk.2.2) desk
  rw [if_pos rfl, Spec.ensures_sequence_cons]
  have reads := ensures_weightedReading weightedStill openedStill current
    (inbox ▸ small)
  rw [inbox, received, List.nil_append, office] at reads
  apply reads.mono
  rintro status read listened
  split
  case isFalse => exact listened
  apply ((acting_afterMail read trivial).lawful afterMail_keeps).mono
  rintro status after ⟨_, keptOn⟩
  injection keptOn with sameOffice sameDesk
  rw [sameOffice, sameDesk]
  exact listened

end Behavior

end Disclosure
