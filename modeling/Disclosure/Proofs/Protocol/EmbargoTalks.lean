import Disclosure.Proofs.Protocol.Deeds
import Disclosure.Proofs.Tree.Deliberation

/-!
# Embargo talks take one step at most

All the trees of the embargo talks deliberate and then make one embargo move and
announce it, or nothing at all.  The move starts from a state that it may start
from, and terms are offered in a quiet case only.

In a case that is not quiet, ending the embargo is not a matter of reasons any
more: a proposal is withdrawn at once, and an embargo in force is terminated
unless the decision to do so is not taken.
-/

namespace Disclosure

namespace ActorState

theorem Muses.exists_eq {before after : ActorState}
    (muses : Muses before after) :
    ∃ stream arbiter, after = { before with stream, arbiter } := by
  rcases Ponders.exists_eq (.single muses) with ⟨stream, arbiter, _, same⟩
  exact ⟨stream, arbiter, same⟩

end ActorState

namespace Behavior

open ActorState Deliberation

variable {bound : Nat}

/-- Deliberation of an actor before one act; decisions may stay pending if that
is allowed. -/
def deliberating (pending : Bool) (acts : ActorState → ActorState → Prop) :
    Deliberation ActorState where
  known state := state.arbiter.policy.Settles pending
  muses := Muses
  acts := acts
  answers := Status.Settled pending
  Steady fact := ∀ state stream arbiter,
    fact { state with stream, arbiter } = fact state
  stable := by
    intro before after settles muses
    obtain ⟨stream, arbiter, samePolicy, rfl⟩ :=
      Ponders.exists_eq (.single muses)
    exact samePolicy ▸ settles
  keeps := by
    intro fact steady before after muses
    rcases muses.exists_eq with ⟨stream, arbiter, rfl⟩
    exact steady before stream arbiter
  asks decision board := .ask board decision
  settles _ _ settles := settles _ _ _
  success := Status.settled_success
  failure := Status.settled_failure

/-- One announced move of embargo management. -/
def Announces (before after : ActorState) : Prop :=
  ∃ move : EmbargoMove, before.embargo ∈ move.starts ∧
    (before.caseState.isQuiet || !move.offersTerms) = true ∧
    after = before.announce move

theorem Announces.deed {before after : ActorState}
    (announces : Announces before after) :
    Deed before after := by
  rcases announces with ⟨move, starts, viable, rfl⟩
  exact .announce move starts viable

theorem announces_open {move : EmbargoMove} {before : ActorState}
    (starts : before.embargo ∈ move.starts)
    (viable : (before.caseState.isQuiet || !move.offersTerms) = true) :
    before.embargo ∈ move.starts ∧ Announces before (before.announce move) :=
  ⟨starts, move, starts, viable, rfl⟩

/-- Talking: deliberation that ends in an announced move, if in anything. -/
abbrev talking : Deliberation ActorState := deliberating true Announces

/-- A move that is open and its announcement, at the end of a sequence. -/
theorem covers_announce
    {deliberation : Deliberation ActorState}
    {name : String} (move : EmbargoMove)
    (acts : ∀ before, deliberation.known before →
      before.embargo ∈ move.starts ∧
        deliberation.acts before (before.announce move)) :
    deliberation.Covers bound
      (Spec.sequence name [moveEmbargo move, emit move.announcement]) := by
  intro before known
  rcases acts before known with ⟨starts, act⟩
  have opened : before.embargo = move.target ∨
      before.embargo ∈ move.starts := .inr starts
  simp only [Spec.ensures_sequence_cons, ensures_moveEmbargo, if_pos opened,
    ensures_emit, Spec.ensures_sequence_nil, if_true]
  exact ends_of_acts act

/-! ## Ending an embargo -/

section Thoughts

variable {deliberation : Deliberation ActorState}

/-- The reasons of an actor of its own are a matter of thought only. -/
theorem covers_otherReasonToExit :
    deliberation.Covers bound otherReasonToExit := by
  refine .orElse ?deployed (.orElse ?ready (.orElse ?other ?end_))
  case deployed =>
    exact .think (covers_question fun _ _ => ensures_caseHas _)
      (.decide (covers_sequence_nil _))
  case ready =>
    exact .think (covers_question fun _ _ => ensures_caseHas _)
      (.think (covers_question fun _ _ => ensures_isNoDeployer)
        (.decide (covers_sequence_nil _)))
  case other => exact covers_decision _ _
  case end_ => exact covers_fallback_nil _

end Thoughts

/-- A proposal is withdrawn, an embargo in force is terminated, or nothing. -/
theorem covers_terminateEmbargo :
    talking.Covers bound terminateEmbargo := by
  refine .orElse ?free (.orElse ?withdraw (.orElse ?exit ?end_))
  case free =>
    exact covers_question fun _ _ => ensures_embargoNoneOrExited
  case withdraw =>
    refine .guard (fun _ _ => ensures_embargoIn _) (fun _ _ _ => rfl) ?_
    refine .think ?_ ?_
    · exact .orElse (covers_question fun _ _ => ensures_caseNotQuiet)
        (.orElse covers_otherReasonToExit (covers_fallback_nil _))
    · apply covers_announce .reject
      rintro before ⟨_, proposed⟩
      exact announces_open (by simpa [EmbargoMove.starts] using proposed)
        (by simp [EmbargoMove.offersTerms])
  case exit =>
    refine .guard (fun _ _ => ensures_embargoInForce) (fun _ _ _ => rfl) ?_
    refine .think ?_ (.decide ?_)
    · exact .orElse (covers_question fun _ _ => ensures_caseNotQuiet)
        (.orElse (covers_decision _ _)
          (.orElse covers_otherReasonToExit (covers_fallback_nil _)))
    · apply covers_announce .terminate
      rintro before ⟨_, inForce⟩
      exact announces_open (by simpa [EmbargoMove.starts] using inForce)
        (by simp [EmbargoMove.offersTerms])
  case end_ => exact covers_fallback_nil _

/-- Once something is public, the embargo ends unless somebody keeps it. -/
theorem ensures_terminateEmbargo {state : ActorState}
    (news : state.caseState.isQuiet = false) :
    terminateEmbargo.Ensures bound state fun status after =>
      EndsEmbargo state after ∧
        (status = .success ∨ status = (state.decide exitDecision).1) := by
  rcases stands : state.embargo with _ | _ | _ | _ | _
  case noEmbargo | exited =>
    have ends : EndsEmbargo state state := .nothing (by simp [stands])
    simpa [terminateEmbargo, stands, Status.ofBool] using ends
  case proposed =>
    have ends : EndsEmbargo state (state.announce .reject) := .withdraw stands
    simpa [terminateEmbargo, stands, news, Status.ofBool,
      EmbargoMove.starts, announce, EmbargoMove.announcement] using ends
  case active | revise =>
    have inForce : state.embargo ∈ [.active, .revise] := by simp [stands]
    have opened : (state.decide exitDecision).2.embargo ∈
      EmbargoMove.terminate.starts := inForce
    cases granted : (state.decide exitDecision).1 with
    | success =>
      have ends := EndsEmbargo.terminate inForce granted
      simp only [exitDecision, ActorState.decide] at granted opened ends
      simpa [terminateEmbargo, stands, news, Status.ofBool, granted, opened,
        announce, EmbargoMove.announcement] using ends
    | failure | running =>
      have ends := EndsEmbargo.refused inForce (by simp [granted])
      simp only [exitDecision, ActorState.decide] at granted ends
      simpa [terminateEmbargo, stands, news, Status.ofBool, granted] using ends

/-! ## Offering terms -/

/-- Terms are offered in a quiet case, by a proposal or a revision. -/
theorem covers_proposeEmbargo :
    talking.Covers bound proposeEmbargo := by
  refine .think (covers_question fun _ _ => ensures_embargoNotIn _) ?_
  refine .guard (fun _ _ => ensures_caseQuiet) (fun _ _ _ => rfl) ?_
  refine .think ?_ (.decide (.last ?_))
  · exact .orElse (covers_question fun _ _ => ensures_caseLacks _)
      (.orElse (covers_decision _ _) (covers_fallback_nil _))
  · refine .orElse ?skip (.orElse ?propose (.orElse ?revise ?end_))
    case skip =>
      refine .think (covers_question fun _ _ => ensures_inAny _ _ _) ?_
      exact .think (.invert (covers_decision _ _)) (covers_sequence_nil _)
    case propose =>
      refine .guard (fun _ _ => ensures_inAny _ _ _) (fun _ _ _ => rfl) ?_
      apply covers_announce .propose
      rintro before ⟨⟨_, quiet⟩, starts⟩
      exact announces_open (of_decide_eq_true starts) (by simp [quiet])
    case revise =>
      refine .guard (fun _ _ => ensures_embargoInForce) (fun _ _ _ => rfl) ?_
      apply covers_announce .revise
      rintro before ⟨⟨_, quiet⟩, starts⟩
      exact announces_open (of_decide_eq_true starts) (by simp [quiet])
    case end_ => exact covers_fallback_nil _

/-! ## Answering an offer -/

/-- The terms on the table are accepted, where there are any. -/
theorem covers_evaluateAndAccept {fact : ActorState → Bool}
    (steady : talking.Steady fact)
    (offered : ∀ before, fact before = true →
      before.embargo ∈ EmbargoMove.accept.starts) :
    (talking.given steady true).Covers bound evaluateAndAccept := by
  refine .decide (.decide ?_)
  apply covers_announce .accept
  rintro before ⟨_, held⟩
  exact announces_open (offered before held)
    (by simp [EmbargoMove.offersTerms])

theorem covers_counterProposal :
    talking.Covers bound counterProposal :=
  .decide (.last covers_proposeEmbargo)

/-! ## One step for each state -/

theorem covers_withoutEmbargo : talking.Covers bound withoutEmbargo := by
  refine .think (covers_question fun _ _ => ensures_embargoIn _) (.last ?_)
  exact .orElse (covers_decision _ _)
    (.orElse covers_proposeEmbargo (covers_fallback_nil _))

/-- Talks about an offer, which ends in a given move when it is rejected. -/
theorem covers_answering {name responses rejecting : String}
    (move : EmbargoMove) {offer : EmbargoState}
    (acceptable : offer ∈ EmbargoMove.accept.starts)
    (rejectable : offer ∈ move.starts)
    (rejects : move.offersTerms = false) :
    talking.Covers bound
      (Spec.sequence name
        [embargoIn offer,
         .fallback responses
          [terminateEmbargo,
           evaluateAndAccept,
           counterProposal,
           .sequence rejecting
            [.decision "OnEmbargoReject" .alwaysSucceed,
             moveEmbargo move,
             emit move.announcement]]]) := by
  refine .guard (fun _ _ => ensures_embargoIn _) (fun _ _ _ => rfl) (.last ?_)
  refine .orElse ?terminate (.orElse ?accept (.orElse ?counter
    (.orElse ?reject (covers_fallback_nil _))))
  case terminate => exact covers_terminateEmbargo.given _ _
  case accept =>
    apply covers_evaluateAndAccept _
    intro before held
    rw [of_decide_eq_true held]
    exact acceptable
  case counter => exact covers_counterProposal.given _ _
  case reject =>
    refine .decide (covers_announce move ?_)
    rintro before ⟨_, held⟩
    refine announces_open ?_ (by simp [rejects])
    rw [of_decide_eq_true held]
    exact rejectable

theorem covers_withProposal : talking.Covers bound withProposal :=
  covers_answering .reject (by decide) (by decide) rfl

theorem covers_withRevision : talking.Covers bound withRevision :=
  covers_answering .rejectRevision (by decide) (by decide) rfl

theorem covers_withEmbargo : talking.Covers bound withEmbargo := by
  refine .think (covers_question fun _ _ => ensures_embargoIn _) (.last ?_)
  exact .orElse covers_terminateEmbargo (.orElse (covers_decision _ _)
    (.orElse covers_proposeEmbargo (covers_fallback_nil _)))

/-- A tick of the embargo talks makes one announced move, or none. -/
theorem covers_embargoManagement :
    talking.Covers bound embargoManagement := by
  refine .orElse ?early (.orElse ?ended (.orElse ?noNew
    (.orElse covers_withoutEmbargo (.orElse covers_withProposal
      (.orElse covers_withEmbargo (.orElse covers_withRevision
        (covers_fallback_nil _)))))))
  case early => exact covers_question fun _ _ => ensures_reportStartOrClosed
  case ended => exact covers_question fun _ _ => ensures_embargoIn _
  case noNew =>
    exact .think (covers_question fun _ _ => ensures_caseNotQuiet)
      (.think (covers_question fun _ _ => ensures_embargoIn _)
        (covers_sequence_nil _))

end Behavior

end Disclosure
