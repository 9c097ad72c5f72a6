import Disclosure.Proofs.Random.Draw
import Disclosure.Proofs.Tree.Memoryless
import Mathlib.Logic.Relation

/-!
# What a tree ensures

`tree.Ensures bound board post` says that running the tree on the blackboard
comes to an answer, and that the answer and the blackboard after it satisfy
`post`.  There is one rule for each way of writing a specification; for the
composites the rules are equivalences, so that a small tree is worked through
by rewriting.  Larger trees are put together from what their parts ensure, by
`Ensures.mono` and, where all parts make the same kind of move, by `Moves`.
-/

namespace Disclosure

variable {ι β : Type} [Blackboard β] {bound : Nat}

namespace Tree

/-- Running the tree comes to an answer that satisfies `post`. -/
def Ensures (bound : Nat) (tree : Tree ι Unit β) (board : β)
    (post : Status → β → Prop) : Prop :=
  ∃ status after,
    tree.run bound board = .ok (status, after) ∧ post status after

theorem Ensures.mono
    {tree : Tree ι Unit β} {board : β}
    {post weaker : Status → β → Prop}
    (ensures : tree.Ensures bound board post)
    (weaken : ∀ status after, post status after → weaker status after) :
    tree.Ensures bound board weaker := by
  rcases ensures with ⟨status, after, ran, holds⟩
  exact ⟨status, after, ran, weaken status after holds⟩

theorem ensures_congr
    {tree : Tree ι Unit β} {board : β}
    {post other : Status → β → Prop}
    (same : ∀ status after, post status after ↔ other status after) :
    tree.Ensures bound board post ↔ tree.Ensures bound board other := by
  constructor
  · intro ensures
    exact ensures.mono fun status after => (same status after).mp
  · intro ensures
    exact ensures.mono fun status after => (same status after).mpr

/-- A run has one result only, so two statements about it hold together. -/
theorem Ensures.and
    {tree : Tree ι Unit β} {board : β}
    {post other : Status → β → Prop}
    (ensures : tree.Ensures bound board post)
    (also : tree.Ensures bound board other) :
    tree.Ensures bound board
      (fun status after => post status after ∧ other status after) := by
  rcases ensures with ⟨status, after, ran, holds⟩
  rcases also with ⟨otherStatus, otherAfter, ranToo, holdsToo⟩
  rw [ran] at ranToo
  cases ranToo
  exact ⟨status, after, ran, holds, holdsToo⟩

/-- What a tree ensures is what holds of the outcome of its run. -/
theorem ensures_of_run
    {tree : Tree ι Unit β} {board : β} {outcome : Status × β}
    {post : Status → β → Prop}
    (ran : tree.run bound board = .ok outcome) :
    tree.Ensures bound board post ↔ post outcome.1 outcome.2 := by
  constructor
  · rintro ⟨status, after, runs, holds⟩
    rw [ran] at runs
    cases runs
    exact holds
  · intro holds
    exact ⟨outcome.1, outcome.2, ran, holds⟩

/-- Running the tree changes nothing and tells whether a fact holds. -/
def Finds (bound : Nat) (question : Tree ι Unit β) (fact : β → Bool) : Prop :=
  ∀ board (post : Status → β → Prop),
    question.Ensures bound board post ↔ post (.ofBool (fact board)) board

end Tree

/-! ## Composites -/

namespace Spec

variable {name : String} {children : List (Spec Unit β)} {board : β}
  {post : Status → β → Prop}

@[simp]
theorem ensures_sequence_nil :
    (sequence name ([] : List (Spec Unit β))).Ensures bound board post ↔
      post .success board := by
  simp [Tree.Ensures, sequence, Tree.run, Kind.runner, Runner.inOrder]

@[simp]
theorem ensures_fallback_nil :
    (fallback name ([] : List (Spec Unit β))).Ensures bound board post ↔
      post .failure board := by
  simp [Tree.Ensures, fallback, Tree.run, Kind.runner, Runner.inOrder]

theorem run_sequence_cons (child : Spec Unit β) :
    (sequence name (child :: children)).run bound board =
      (do
        let first ← child.run bound board
        if first.1 = .success then
          (sequence name children).run bound first.2
        else return first) := by
  simp [sequence, Tree.run, Kind.runner, Runner.inOrder]

theorem run_fallback_cons (child : Spec Unit β) :
    (fallback name (child :: children)).run bound board =
      (do
        let first ← child.run bound board
        if first.1 = .failure then
          (fallback name children).run bound first.2
        else return first) := by
  simp [fallback, Tree.run, Kind.runner, Runner.inOrder]

omit [Blackboard β] in
/-- A run of two parts ensures what its second part ensures after the first. -/
theorem ensures_of_bind
    {first : Except TickError (Status × β)}
    {next : Status × β → Except TickError (Status × β)}
    (holds : Status → β → Prop) :
    (∃ status after, (first >>= next) = .ok (status, after) ∧
        holds status after) ↔
      ∃ status middle, first = .ok (status, middle) ∧
        ∃ answer after, next (status, middle) = .ok (answer, after) ∧
          holds answer after := by
  cases first with
  | error found =>
    constructor
    · rintro ⟨status, after, impossible, _⟩
      cases impossible
    · rintro ⟨status, middle, impossible, _⟩
      cases impossible
  | ok result =>
    constructor
    · rintro ⟨status, after, ran, holdsAfter⟩
      exact ⟨result.1, result.2, rfl, status, after, ran, holdsAfter⟩
    · rintro ⟨status, middle, same, answer, after, ran, holdsAfter⟩
      cases same
      exact ⟨answer, after, ran, holdsAfter⟩

@[simp]
theorem ensures_sequence_cons (child : Spec Unit β) :
    (sequence name (child :: children)).Ensures bound board post ↔
      child.Ensures bound board fun status after =>
        if status = .success then
          (sequence name children).Ensures bound after post
        else post status after := by
  simp only [Tree.Ensures, run_sequence_cons, ensures_of_bind]
  refine exists_congr fun status => exists_congr fun after => and_congr_right ?_
  intro ran
  by_cases succeeded : status = .success
  · simp [succeeded]
  · simp [succeeded, pure, Except.pure]

@[simp]
theorem ensures_fallback_cons (child : Spec Unit β) :
    (fallback name (child :: children)).Ensures bound board post ↔
      child.Ensures bound board fun status after =>
        if status = .failure then
          (fallback name children).Ensures bound after post
        else post status after := by
  simp only [Tree.Ensures, run_fallback_cons, ensures_of_bind]
  refine exists_congr fun status => exists_congr fun after => and_congr_right ?_
  intro ran
  by_cases failed : status = .failure
  · simp [failed]
  · simp [failed, pure, Except.pure]

/-- A sequence of one part is that part. -/
theorem ensures_sequence_singleton (child : Spec Unit β) :
    (sequence name [child]).Ensures bound board post ↔
      child.Ensures bound board post := by
  rw [ensures_sequence_cons]
  apply Tree.ensures_congr
  intro status after
  by_cases succeeded : status = .success
  · simp [succeeded]
  · simp [succeeded]

/-- So is a fallback of one part. -/
theorem ensures_fallback_singleton (child : Spec Unit β) :
    (fallback name [child]).Ensures bound board post ↔
      child.Ensures bound board post := by
  rw [ensures_fallback_cons]
  apply Tree.ensures_congr
  intro status after
  by_cases failed : status = .failure
  · simp [failed]
  · simp [failed]

/-! ## Decorators -/

theorem ensures_mapStatus
    {transform : Decorator} {change : Status → Status}
    (maps : ∀ run : Runner β,
      transform.runner bound run = run.mapStatus change)
    (child : Spec Unit β) :
    (decorate name transform child).Ensures bound board post ↔
      child.Ensures bound board fun status => post (change status) := by
  simp only [Tree.Ensures, decorate, Tree.run, Kind.runner,
    Tree.runners_eq_map, List.map_cons, maps, Runner.mapStatus,
    ensures_of_bind]
  refine exists_congr fun status => exists_congr fun after => and_congr_right ?_
  intro ran
  simp [pure, Except.pure]

@[simp]
theorem ensures_invert (child : Spec Unit β) :
    (invert name child).Ensures bound board post ↔
      child.Ensures bound board fun status => post status.invert :=
  ensures_mapStatus (fun _ => rfl) child

@[simp]
theorem ensures_forceSuccess (child : Spec Unit β) :
    (forceSuccess name child).Ensures bound board post ↔
      child.Ensures bound board fun _ => post .success :=
  ensures_mapStatus (fun _ => rfl) child

@[simp]
theorem ensures_forceFailure (child : Spec Unit β) :
    (forceFailure name child).Ensures bound board post ↔
      child.Ensures bound board fun _ => post .failure :=
  ensures_mapStatus (fun _ => rfl) child

/--
A loop comes to an end within its bound when each success of its child makes a
measure smaller that was below the bound.
-/
theorem ensures_untilFailure
    {child : Spec Unit β}
    (invariant : β → Prop) (measure : β → Nat)
    (body : ∀ before, invariant before →
      child.Ensures bound before fun status after =>
        match status with
        | .success => invariant after ∧ measure after < measure before
        | .failure => post .success after
        | .running => post .running after)
    (holds : invariant board)
    (small : measure board < bound) :
    (untilFailure name child).Ensures bound board post := by
  have loop : ∀ (rounds : Nat) (before : β), invariant before →
      measure before < rounds →
      ∃ status after,
        (child.run bound).untilFailure rounds before = .ok (status, after) ∧
          post status after := by
    intro rounds
    induction rounds with
    | zero =>
      intro before _ impossible
      omega
    | succ rounds ih =>
      intro before holdsBefore below
      rcases body before holdsBefore with ⟨status, middle, ran, next⟩
      simp only [Runner.untilFailure, ran]
      cases status with
      | success =>
        exact ih middle next.1 (by omega)
      | failure => exact ⟨.success, middle, rfl, next⟩
      | running => exact ⟨.running, middle, rfl, next⟩
  exact loop bound board holds small

/-! ## Leaves -/

@[simp]
theorem ensures_action (act : β → Status × β) :
    (action name act : Spec Unit β).Ensures bound board post ↔
      post (act board).1 (act board).2 := by
  apply Tree.ensures_of_run
  simp [action, ofLeaf, Leaf.ofAct, Tree.run, Kind.runner]

@[simp]
theorem ensures_effect (change : β → β) :
    (effect name change : Spec Unit β).Ensures bound board post ↔
      post .success (change board) :=
  ensures_action _

@[simp]
theorem ensures_condition (holds : β → Bool) :
    (condition name holds : Spec Unit β).Ensures bound board post ↔
      post (.ofBool (holds board)) board := by
  simp [Tree.Ensures, condition, ofLeaf, Leaf.ofAct, Tree.run, Kind.runner]

@[simp]
theorem ensures_decision (weight : Weight) :
    (decision name weight : Spec Unit β).Ensures bound board post ↔
      post (Blackboard.decide ⟨name, weight⟩ board).1
        (Blackboard.decide ⟨name, weight⟩ board).2 := by
  apply Tree.ensures_of_run
  simp [decision, ofLeaf, Leaf.ofAct, Tree.run, Kind.runner]

/-! ## Alternatives that are questions -/

theorem finds_fallback_nil :
    (fallback name ([] : List (Spec Unit β))).Finds bound fun _ => false := by
  intro board post
  rw [ensures_fallback_nil]
  rfl

/-- One of several facts holds. -/
theorem finds_orElse {question : Spec Unit β} {fact others : β → Bool}
    (first : question.Finds bound fact)
    (rest : (fallback name children).Finds bound others) :
    (fallback name (question :: children)).Finds bound
      fun board => fact board || others board := by
  intro board post
  rw [ensures_fallback_cons, first]
  cases held : fact board with
  | true => simp [Status.ofBool, held]
  | false => simp [Status.ofBool, held, rest board post]

/-! ## Parallel nodes that need one success -/

/--
In a parallel node that needs one success the first success is the last thing
that happens.  Everything before it leaves the blackboard in a condition that
the other children can start from.
-/
theorem ensures_parallel_one
    (calm : β → Prop)
    (nonempty : children ≠ [])
    (starts : ∀ stream, calm (Blackboard.setRandom stream board))
    (each : ∀ child ∈ children, ∀ before, calm before →
      child.Ensures bound before fun status after =>
        if status = .success then post .success after else calm after)
    (failed : ∀ after, calm after → post .failure after)
    (undecided : ∀ after, calm after → post .running after) :
    (parallel name 1 children).Ensures bound board post := by
  have loop : ∀ (order : List Nat) (failures : Nat) (before : β),
      (∀ index ∈ order, index < children.length) → calm before →
      ∃ status after,
        Runner.inParallel (children.map (Tree.run bound)) 1
            (children.length - 1) order 0 failures before =
          .ok (status, after) ∧ post status after := by
    intro order
    induction order with
    | nil =>
      intro failures before _ holds
      exact ⟨.running, before, rfl, undecided before holds⟩
    | cons index order ih =>
      intro failures before inside holds
      have indexInside := inside index (by simp)
      have restInside : ∀ other ∈ order, other < children.length :=
        fun other member => inside other (by simp [member])
      obtain ⟨status, middle, ran, next⟩ :=
        each _ (List.getElem_mem indexInside) before holds
      simp only [Runner.inParallel, List.getElem?_map,
        List.getElem?_eq_getElem indexInside, Option.map_some, ran]
      cases status with
      | success => exact ⟨.success, middle, rfl, next⟩
      | failure =>
        by_cases tooMany : children.length - 1 < failures + 1
        · refine ⟨.failure, middle, ?_, failed middle next⟩
          simp [bind, Except.bind, tooMany, pure, Except.pure]
        · obtain ⟨status, after, ranOn, holdsAfter⟩ :=
            ih (failures + 1) middle restInside next
          refine ⟨status, after, ?_, holdsAfter⟩
          simpa [bind, Except.bind, tooMany] using ranOn
      | running =>
        exact ih failures middle restInside next
  have several : ¬ children.length < 1 := by
    have positive := List.length_pos_of_ne_nil nonempty
    omega
  have inside : ∀ index ∈
      ((Blackboard.random board).shuffle (List.range children.length)).1,
      index < children.length := by
    intro index member
    have listed :=
      (RandomStream.shuffle_perm _ _).mem_iff.mp member
    exact List.mem_range.mp listed
  obtain ⟨status, after, ran, holdsAfter⟩ :=
    loop _ 0 _ inside (starts _)
  refine ⟨status, after, ?_, holdsAfter⟩
  simpa [parallel, Tree.run, Kind.runner, Runner.parallel, several] using ran

end Spec

end Disclosure
