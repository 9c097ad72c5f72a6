import Disclosure.Proofs.Protocol.EmbargoTalks
import Disclosure.Proofs.Protocol.Proper
import Disclosure.Proofs.Tree.Hosting

/-!
# Labelled steps of the embargo talks

The embargo talks are a labelled transition system with ten steps.  Each of them
leads from one embargo state to another one, or back to the same one, and its
label is the message by which everybody is told of it.  A tick takes one of these
steps as its last action and with success, or it leaves no trace but in the
stream and in the record of answers.  So no alternative acts on a state that an
earlier one has changed, and what does not succeed has no effect.
-/

namespace Disclosure

/-- A step of the talks: where it starts and ends, and what is told of it. -/
structure EmbargoStep where
  start : EmbargoState
  target : EmbargoState
  label : MessageType
  deriving DecidableEq, Repr

namespace EmbargoStep

/-- The steps that there are. -/
def all : List EmbargoStep :=
  [⟨.noEmbargo, .proposed, .embargoProposal⟩,
   ⟨.proposed, .proposed, .embargoProposal⟩,
   ⟨.proposed, .active, .embargoAccepted⟩,
   ⟨.proposed, .noEmbargo, .embargoRejected⟩,
   ⟨.active, .revise, .revisionProposal⟩,
   ⟨.revise, .revise, .revisionProposal⟩,
   ⟨.revise, .active, .embargoAccepted⟩,
   ⟨.revise, .active, .revisionRejected⟩,
   ⟨.active, .exited, .embargoTerminated⟩,
   ⟨.revise, .exited, .embargoTerminated⟩]

/-- The step that a move makes from a state. -/
def ofMove (move : EmbargoMove) (start : EmbargoState) : EmbargoStep where
  start
  target := move.target
  label := move.announcement

/-- The moves make no other steps than these. -/
theorem ofMove_mem_all {move : EmbargoMove} {start : EmbargoState}
    (starts : start ∈ move.starts) :
    ofMove move start ∈ all := by
  have each : ∀ start ∈ move.starts, ofMove move start ∈ all := by
    cases move <;> decide
  exact each start starts

/-- What becomes of a state by the step alone: the embargo moves, its history
grows unless it stays where it is, and one broadcast is noted and sent. -/
def result (step : EmbargoStep) (state : ActorState) : ActorState :=
  { state with
    embargo := step.target
    embargoHistory :=
      if step.start = step.target then state.embargoHistory
      else state.embargoHistory ++ [step.target]
    emitted := state.emitted ++ [step.label]
    sent := state.sent.push (.broadcast step.label state.name) }

end EmbargoStep

namespace ActorState

/-- Nothing has changed but the stream and the record of answers. -/
def SameApartFromAnswers (before after : ActorState) : Prop :=
  ∃ stream arbiter, arbiter.policy = before.arbiter.policy ∧
    after = { before with stream, arbiter }

/-- Answers apart, the step is all that has happened. -/
def Takes (step : EmbargoStep) (before after : ActorState) : Prop :=
  before.embargo = step.start ∧
    SameApartFromAnswers (step.result before) after

/-- No effect, or success by exactly one of the steps. -/
def OneStepOrNone (before : ActorState) (status : Status)
    (after : ActorState) : Prop :=
  SameApartFromAnswers before after ∨
    status = .success ∧
      ∃! step, step ∈ EmbargoStep.all ∧ Takes step before after

/-- A change tells which step has made it. -/
theorem Takes.unique {step other : EmbargoStep} {before after : ActorState}
    (takes : Takes step before after)
    (takesOther : Takes other before after) :
    step = other := by
  obtain ⟨start, stream, arbiter, _, rfl⟩ := takes
  obtain ⟨startOther, _, _, _, same⟩ := takesOther
  have target : step.target = other.target := congrArg embargo same
  have emits : before.emitted ++ [step.label] =
      before.emitted ++ [other.label] := congrArg emitted same
  have label : step.label = other.label := by simpa using emits
  cases step
  cases other
  simp_all

/-- To make a move and announce it is to take its step. -/
theorem takes_announce {move : EmbargoMove} {before middle : ActorState}
    (ponders : Ponders before middle) :
    Takes (.ofMove move before.embargo) before (middle.announce move) := by
  obtain ⟨stream, arbiter, samePolicy, rfl⟩ := ponders.exists_eq
  refine ⟨rfl, stream, arbiter, samePolicy, ?_⟩
  rw [announce, moveEmbargo_eq]
  rfl

end ActorState

namespace Behavior

open ActorState Deliberation

variable {bound : Nat}

/-- Whoever talks takes one step or none. -/
theorem ensures_oneStepOrNone {behavior : Behavior}
    (talks : talking.Covers bound behavior) (state : ActorState) :
    behavior.Ensures bound state (OneStepOrNone state) := by
  apply (talks state (Policy.settles_anyhow _)).mono
  rintro status after ⟨_, ponders | ⟨succeeded, middle, ponders, announces⟩⟩
  · exact .inl (Ponders.exists_eq ponders)
  · obtain ⟨move, starts, _, rfl⟩ := announces
    have takes : Takes (.ofMove move state.embargo) state
        (middle.announce move) := takes_announce ponders
    have startsBefore : state.embargo ∈ move.starts := by
      obtain ⟨_, _, _, rfl⟩ := Ponders.exists_eq ponders
      exact starts
    refine .inr ⟨succeeded, .ofMove move state.embargo,
      ⟨EmbargoStep.ofMove_mem_all startsBefore, takes⟩, ?_⟩
    rintro other ⟨_, takesOther⟩
    exact takesOther.unique takes

/-- The whole of the talks, and the two parts of them that also stand alone. -/
def embargoTalks : List Behavior :=
  [embargoManagement, terminateEmbargo, proposeEmbargo]

theorem proper_of_mem_embargoTalks {behavior : Behavior}
    (among : behavior ∈ embargoTalks) :
    behavior.Proper := by
  simp only [embargoTalks, List.mem_cons, List.not_mem_nil, or_false] at among
  rcases among with rfl | rfl | rfl
  · exact proper_embargoManagement
  · exact proper_terminateEmbargo
  · exact proper_proposeEmbargo

theorem talks_of_mem_embargoTalks {behavior : Behavior}
    (among : behavior ∈ embargoTalks) :
    talking.Covers bound behavior := by
  simp only [embargoTalks, List.mem_cons, List.not_mem_nil, or_false] at among
  rcases among with rfl | rfl | rfl
  · exact covers_embargoManagement
  · exact covers_terminateEmbargo
  · exact covers_proposeEmbargo

end Behavior

open ActorState Behavior

/--
A tick of the embargo talks, of the end of an embargo or of an offer of terms
has no effect, or it succeeds and exactly one of the ten steps is all that has
happened.  A tick that does not succeed has no effect.
-/
theorem embargo_takes_one_step_or_none
    {tree : BehaviorTree Unit ActorState} {behavior : Behavior} {bound : Nat}
    (among : behavior ∈ embargoTalks)
    (hosts : tree.root.Hosts behavior) :
    ∃ status last, tree.tick bound = .ok (status, last) ∧
      OneStepOrNone tree.board status last.board ∧
      (status ≠ .success → SameApartFromAnswers tree.board last.board) := by
  have ends : behavior.Ensures bound tree.board (OneStepOrNone tree.board) :=
    ensures_oneStepOrNone (talks_of_mem_embargoTalks among) tree.board
  rcases ends with ⟨status, after, ran, law⟩
  obtain ⟨last, ticked, _, rfl⟩ :=
    BehaviorTree.tick_of_hosts hosts (proper_of_mem_embargoTalks among) ran
  refine ⟨status, last, ticked, law, fun failed => ?_⟩
  rcases law with nothing | ⟨succeeded, _⟩
  · exact nothing
  · exact (failed succeeded).elim

/-- Somebody who has been offered an embargo, finds no reason against it and
accepts the terms. -/
def offeree : ActorState :=
  { ActorState.new "alice" (.ofList [.vendor]) (.ofSeed 0) with
    report := .received
    embargo := .proposed
    arbiter := .new (.taped 0 #[.failure, .success, .success] .weighted) }

theorem offeree_accepts :
    (embargoManagement.run 1 offeree).toOption.map
        (fun result => (result.1, result.2.embargoHistory, result.2.emitted)) =
      some (.success, [.active], [.embargoAccepted]) := by
  decide +kernel

/-- The law at work on an offer: the one step is its acceptance. -/
theorem offeree_takes_one_step_or_none :
    embargoManagement ∈ embargoTalks ∧
      ∃ tree : BehaviorTree Unit ActorState,
        tree.root.Hosts embargoManagement ∧ tree.board = offeree ∧
        ∃ last, tree.tick 1 = .ok (.success, last) ∧
          OneStepOrNone offeree .success last.board ∧
          last.board.embargoHistory = [.active] ∧
          last.board.emitted = [.embargoAccepted] := by
  have among : embargoManagement ∈ embargoTalks := List.mem_cons_self
  obtain ⟨tree, hosts, board⟩ :=
    BehaviorTree.exists_hosting proper_embargoManagement offeree
  obtain ⟨status, last, ticked, step, _⟩ :=
    @embargo_takes_one_step_or_none tree _ 1 among hosts
  obtain ⟨_, _, _, tickedToo, accepts⟩ :=
    BehaviorTree.exists_tick_of_run hosts proper_embargoManagement
      (board ▸ offeree_accepts)
  cases ticked.symm.trans tickedToo
  simp only [Prod.mk.injEq] at accepts
  obtain ⟨rfl, history, emitted⟩ := accepts
  exact ⟨among, tree, hosts, board, last, ticked, board ▸ step, history,
    emitted⟩

end Disclosure
