import Disclosure.Proofs.Actor.Log
import Disclosure.Proofs.Tree.Minutes

/-!
# Running only from running

A tree without a decorator for that purpose answers that it is running only if one
of its leaves does.  The leaves of the protocol that can do so are the decisions, and
these are on record; so an actor that leaves no decision open in a tick is not
running after it.
-/

namespace Disclosure

open ActorState

variable {μ β : Type}

/-! ## The protocol keeps a record of what is left open -/

namespace Law

theorem lingers_recording : recording.Lingers := by
  rintro before middle after _ ⟨earlier, grown, open'⟩ ⟨later, grownOn, _⟩
  refine ⟨earlier ++ later, ?_, fun _ => ?_⟩
  · rw [grownOn, grown, List.append_assoc]
  · rcases open' rfl with ⟨answer, among, left⟩
    exact ⟨answer, List.mem_append_left _ among, left⟩

/-- Who takes notes keeps the record, and what is settled leaves nothing open. -/
theorem recording_of_notes {before after : ActorState} {status : Status}
    (notes : Notes before after)
    (settled : status ≠ .running) :
    recording.holds before status after := by
  rcases notes.record with ⟨answers, grown⟩
  exact ⟨answers, grown.symm, fun running => absurd running settled⟩

theorem regular_recording : recording.Regular where
  toPlain := plain_recording
  patient := .inr ⟨lingers_recording, Nat.one_pos⟩
  draw _ _ := recording_of_eq rfl
  evaluatePriority state :=
    recording_of_notes (.evaluatePriority state) (by decide)
  assignIdentifier _ := recording_of_eq rfl

theorem outgoing_recording : recording.Outgoing where
  inject _ _ _ := recording_of_eq rfl
  choose state := by
    refine recording_of_notes (outgoing_noting.choose state) ?_
    rw [chooseRecipient]
    split
    · simp
    · exact Status.ofBool_ne_running _
  strike state :=
    recording_of_notes (outgoing_noting.strike state) (by decide)
  report state := by
    refine recording_of_notes (outgoing_noting.report state) ?_
    rw [reportToRecipient]
    split <;> simp
  brief state := by
    refine recording_of_notes (outgoing_noting.brief state) ?_
    rw [briefRecipient]
    split <;> simp
  connect state := by
    refine recording_of_notes (outgoing_noting.connect state) ?_
    rw [connectRecipient]
    split <;> simp

end Law

/-- Only a decision that is left open lets the protocol run on. -/
theorem Behavior.obeys_protocolRoot : protocolRoot.Obeys .recording := by
  have rest : (Spec.sequence "CvdProtocolBt"
      [reportNotIn .closed, discoverVulnerability, receiveMessages,
       reportManagement, embargoManagement]).Obeys .recording :=
    obeys_afterSnapshot Law.regular_recording Law.outgoing_recording
      Law.incoming_recording
  rw [Spec.obeys_sequence] at rest
  rw [protocolRoot, Spec.obeys_sequence, List.forall_mem_cons]
  refine ⟨?_, rest⟩
  rw [takeSnapshot, Spec.obeys_effect]
  exact fun state => Law.recording_of_eq rfl

/-- An actor that leaves no decision open in a tick is not running after it. -/
theorem Actor.Live.settled_of_quiet {actor : Actor}
    (live : actor.Live)
    (quiet : Quiet actor.state actor.tick.2.state) :
    actor.tick.1 ≠ .running := by
  have ensures := (Behavior.ensures_protocolRoot actor.inbox_lt_bound).lawful
    Behavior.obeys_protocolRoot
  have recorded := (live.answer_of_ensures ensures).2.2
  exact Law.settled_of_recording recorded quiet

/--
Running comes from running.  Each tick of a built tree that ends can be accounted
for, whatever the tree remembers and on whatever blackboard: without a decorator that
makes up that it is running, no node answers so if no leaf does.  A parallel node
none of whose children answers so has crossed one of its thresholds.  And an actor
that leaves no decision open in a tick does not answer that it is running, whatever
happened to it before.
-/
theorem running_comes_from_running [Blackboard β]
    (builder last : Builder)
    (spec : Spec μ β)
    (node : Node μ β)
    (built : builder.build spec = (.ok node, last))
    (bound : Nat)
    (trace : Trace μ)
    (board : β)
    (step : Step (Trace μ) β)
    (ends : node.tick bound trace board = .ok step) :
    (∃ account,
      node.minuted bound trace ⟨board, []⟩ =
        .ok ⟨step.status, step.state, ⟨step.board, [account]⟩⟩ ∧
      account.part = node ∧ account.status = step.status ∧
      (∀ entry ∈ account.entries, entry.part ∈ node.nodes) ∧
      ((∀ part ∈ node.nodes, part.kind.forcesRunning = false) →
        (∀ entry ∈ account.entries, entry.part.kind.isLeaf = true →
          entry.status ≠ .running) →
        ∀ entry ∈ account.entries, entry.status ≠ .running) ∧
      ∀ entry ∈ account.entries, ∀ minSuccess,
        entry.part.kind = .parallel minSuccess →
        (∀ inner ∈ entry.inner, inner.status ≠ .running) →
        entry.status = .success ∧
            minSuccess ≤ (entry.inner.map Account.status).count .success ∨
          entry.status = .failure ∧
            entry.part.children.length - minSuccess <
              (entry.inner.map Account.status).count .failure) ∧
    ∀ (name : String) (roles : Roles) (abilities : Capabilities)
      (chance : Chance) (policy : Policy) (incidents : List Actor.Incident),
      ∃ actor, Actor.start name roles abilities chance policy = .ok actor ∧
        (Quiet (actor.meetAll incidents).state
            (actor.meetAll incidents).tick.2.state →
          (actor.meetAll incidents).tick.1 ≠ .running) := by
  have apt := Builder.apt_of_build spec built
  constructor
  · rcases Tree.exists_account ends with ⟨account, same, part, answered, sound⟩
    subst part
    refine ⟨account, same, rfl, answered,
      fun entry among => (sound.entries entry among).2,
      fun honest leaves => sound.settled apt honest leaves, ?_⟩
    intro entry among minSuccess parallel calm
    rcases sound.entries entry among with ⟨soundToo, below⟩
    cases soundToo with
    | @of part status inner grounds _ _ =>
      have admits := apt part below
      simp only [Account.part] at parallel
      rw [parallel] at grounds admits
      refine grounds.crosses admits fun running => ?_
      rcases List.mem_map.mp running with ⟨child, within, same⟩
      exact calm child within same
  · intro name roles abilities chance policy incidents
    obtain ⟨actor, started, live, _⟩ :=
      Actor.exists_start name roles abilities chance policy
    exact ⟨actor, started, (live.meetAll_logsOn incidents).1.settled_of_quiet⟩

/-- In a tick of the example no leaf is running, for the left one wins the race. -/
theorem example_leaves_settled :
    (exampleSpec.build.toOption.bind fun node =>
      (node.minuted 3 (.blank node) ⟨.new (.ofSeed 0) none, []⟩).toOption.map
        fun step =>
          (node.nodes.all fun part => !part.kind.forcesRunning) &&
          step.board.accounts.all fun account => account.entries.all fun entry =>
            !entry.part.kind.isLeaf || decide (entry.status ≠ .running)) =
      some true := by
  decide +kernel

/-- A vendor that takes every decision leaves none open in its third tick. -/
theorem third_tick_quiet :
    startOfAgreeable.toOption.map (fun actor =>
        (answersSince (actor.meetAll visits).state
          (actor.meetAll visits).tick.2.state).all
            fun answer => decide (answer.outcome ≠ .running)) =
      some true := by
  decide +kernel

theorem running_comes_from_running_of_example :
    ∃ node last step account actor,
      Builder.fresh.build exampleSpec = (.ok node, last) ∧
      node.tick 3 (.blank node) (.new (.ofSeed 0) none) = .ok step ∧
      node.minuted 3 (.blank node) ⟨.new (.ofSeed 0) none, []⟩ =
        .ok ⟨step.status, step.state, ⟨step.board, [account]⟩⟩ ∧
      (∀ part ∈ node.nodes, part.kind.forcesRunning = false) ∧
      (∀ entry ∈ account.entries, entry.part.kind.isLeaf = true →
        entry.status ≠ .running) ∧
      (∀ entry ∈ account.entries, entry.status ≠ .running) ∧
      startOfAgreeable = .ok actor ∧
      Quiet (actor.meetAll visits).state (actor.meetAll visits).tick.2.state ∧
      (actor.meetAll visits).tick.1 ≠ .running := by
  obtain ⟨node, last, step, built, ends⟩ : ∃ node last step,
      Builder.fresh.build exampleSpec = (.ok node, last) ∧
        node.tick 3 (.blank node) (.new (.ofSeed 0) none) = .ok step :=
    ⟨_, _, _, rfl, rfl⟩
  obtain ⟨⟨account, same, _, _, _, settles, _⟩, acts⟩ :=
    running_comes_from_running Builder.fresh last exampleSpec node built 3 _ _
      step ends
  have tested := example_leaves_settled
  rw [Spec.build, built] at tested
  obtain ⟨honest, leaves⟩ :
      (∀ part ∈ node.nodes, part.kind.forcesRunning = false) ∧
        ∀ entry ∈ account.entries,
          entry.part.kind.isLeaf = false ∨ entry.status ≠ .running := by
    simpa [Except.toOption, same] using tested
  have calm : ∀ entry ∈ account.entries, entry.part.kind.isLeaf = true →
      entry.status ≠ .running := by
    intro entry among leaf
    rcases leaves entry among with inner | settled
    · rw [leaf] at inner
      cases inner
    · exact settled
  obtain ⟨actor, started, answers⟩ := acts "vendor" (.ofList [.vendor])
    (.ofRoles (.ofList [.vendor])) (.ofSeed 0) .agreeable visits
  have asked := third_tick_quiet
  rw [startOfAgreeable, started] at asked
  have quiet : Quiet (actor.meetAll visits).state
      (actor.meetAll visits).tick.2.state := by
    intro answer among
    have all := List.all_eq_true.mp (Option.some.inj asked)
    exact of_decide_eq_true (all answer among)
  exact ⟨node, last, step, account, actor, built, ends, same, honest, calm,
    settles honest calm, started, quiet, answers quiet⟩

end Disclosure
