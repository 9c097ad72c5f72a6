import Disclosure.Proofs.Tree.Ensures

/-!
# Relations that a tree respects

Two blackboards may differ in what a tree does not look at.  A tree respects a
relation of blackboards when runs on related ones come to the same answer, or to
the same error, and to blackboards that are related again.  A tree respects what
all of its leaves respect, provided that chance is the same on related
blackboards wherever parallel nodes draw on it.
-/

namespace Disclosure

variable {ι β : Type} {rel : β → β → Prop}

/-! ## Runners -/

namespace Runner

/-- The same error, or the same answer and related blackboards. -/
inductive Matches (rel : β → β → Prop) :
    Except TickError (Status × β) → Except TickError (Status × β) →
      Prop where
  | ok {status : Status} {board twin : β} (related : rel board twin) :
    Matches rel (.ok (status, board)) (.ok (status, twin))
  | error {found : TickError} : Matches rel (.error found) (.error found)

/-- Runs on related blackboards match. -/
def Respects (rel : β → β → Prop) (run : Runner β) : Prop :=
  ∀ board twin, rel board twin → Matches rel (run board) (run twin)

theorem Matches.bind {ran twin : Except TickError (Status × β)}
    {next twinNext : Status × β → Except TickError (Status × β)}
    (first : Matches rel ran twin)
    (second : ∀ status board twin, rel board twin →
      Matches rel (next (status, board)) (twinNext (status, twin))) :
    Matches rel (ran >>= next) (twin >>= twinNext) := by
  cases first with
  | ok related => exact second _ _ _ related
  | error => exact .error

theorem respects_inOrder {through : Status} {runs : List (Runner β)}
    (each : ∀ run ∈ runs, run.Respects rel) :
    (inOrder through runs).Respects rel := by
  induction runs with
  | nil => exact fun _ _ related => .ok related
  | cons run runs ih =>
    have rest : (inOrder through runs).Respects rel :=
      ih fun other member => each other (by simp [member])
    intro board twin related
    simp only [inOrder]
    refine (each run (by simp) board twin related).bind ?_
    intro status board twin related
    by_cases goesOn : status = through
    · simp only [goesOn, if_true]
      exact rest board twin related
    · simp only [goesOn, if_false]
      exact .ok related

theorem respects_inParallel {runs : List (Runner β)}
    {minSuccess maxFailures : Nat}
    (each : ∀ run ∈ runs, run.Respects rel)
    (order : List Nat) (successes failures : Nat) :
    (inParallel runs minSuccess maxFailures order successes
      failures).Respects rel := by
  induction order generalizing successes failures with
  | nil => exact fun _ _ related => .ok related
  | cons index order ih =>
    intro board twin related
    simp only [inParallel]
    cases found : runs[index]? with
    | none => exact .error
    | some run =>
      have ran := each run (List.mem_of_getElem? found) board twin related
      refine ran.bind ?_
      intro status board twin related
      cases status with
      | success =>
        simp only
        split
        · exact .ok related
        · exact ih _ _ board twin related
      | failure =>
        simp only
        split
        · exact .ok related
        · exact ih _ _ board twin related
      | running => exact ih _ _ board twin related

theorem respects_repeatWhile {through : Status} {run : Runner β}
    (respects : run.Respects rel) (times : Nat) :
    (repeatWhile through run times).Respects rel := by
  induction times with
  | zero => exact fun _ _ related => .ok related
  | succ times ih =>
    intro board twin related
    simp only [repeatWhile]
    refine (respects board twin related).bind ?_
    intro status board twin related
    by_cases goesOn : status = through
    · simp only [goesOn, if_true]
      exact ih board twin related
    · simp only [goesOn, if_false]
      exact .ok related

theorem respects_untilFailure {run : Runner β}
    (respects : run.Respects rel) (bound : Nat) :
    (run.untilFailure bound).Respects rel := by
  induction bound with
  | zero => exact fun _ _ _ => .error
  | succ bound ih =>
    intro board twin related
    simp only [untilFailure]
    refine (respects board twin related).bind ?_
    intro status board twin related
    cases status with
    | success => exact ih board twin related
    | failure | running => exact .ok related

theorem respects_mapStatus {transform : Status → Status} {run : Runner β}
    (respects : run.Respects rel) :
    (run.mapStatus transform).Respects rel := by
  intro board twin related
  exact (respects board twin related).bind fun _ _ _ related => .ok related

end Runner

theorem Decorator.respects_runner {run : Runner β} {bound : Nat}
    (respects : run.Respects rel) (transform : Decorator) :
    (transform.runner bound run).Respects rel := by
  cases transform with
  | invert | forceSuccess | forceFailure | forceRunning | runningIsSuccess
  | runningIsFailure =>
    rw [Decorator.runner]
    exact Runner.respects_mapStatus respects
  | retry times | repeated times =>
    exact Runner.respects_repeatWhile respects times
  | untilFailure => exact Runner.respects_untilFailure respects bound

/-! ## Trees -/

variable [Blackboard β]

/-- A leaf respects the relation, and where chance is drawn on, it is the same. -/
def Kind.Respects (rel : β → β → Prop) : Kind Unit β → Prop
  | leaf behavior => ∀ board twin, rel board twin →
      (behavior.act () twin).1 = (behavior.act () board).1 ∧
        rel (behavior.act () board).2.2 (behavior.act () twin).2.2
  | parallel _ => ∀ board twin, rel board twin →
      Blackboard.random twin = Blackboard.random board ∧
        ∀ stream, rel (Blackboard.setRandom stream board)
          (Blackboard.setRandom stream twin)
  | _ => True

namespace Tree

mutual

/-- Every node respects the relation. -/
def Respects (rel : β → β → Prop) : Tree ι Unit β → Prop
  | node _ _ kind children =>
    kind.Respects rel ∧ RespectsList rel children

/-- Several trees that respect the relation. -/
def RespectsList (rel : β → β → Prop) : List (Tree ι Unit β) → Prop
  | [] => True
  | tree :: trees => tree.Respects rel ∧ RespectsList rel trees

end

@[simp]
theorem respectsList_iff (trees : List (Tree ι Unit β)) :
    RespectsList rel trees ↔ ∀ tree ∈ trees, tree.Respects rel := by
  induction trees with
  | nil => simp [RespectsList]
  | cons tree trees ih => simp [RespectsList, ih]

theorem respects_runner {kind : Kind Unit β} {bound : Nat}
    {runs : List (Runner β)}
    (here : kind.Respects rel)
    (each : ∀ run ∈ runs, run.Respects rel) :
    (kind.runner bound runs).Respects rel := by
  cases kind with
  | sequence | fallback => exact Runner.respects_inOrder each
  | parallel minSuccess =>
    intro board twin related
    rcases here board twin related with ⟨sameChance, drawn⟩
    simp only [Kind.runner, Runner.parallel, sameChance]
    split
    · exact .error
    · exact Runner.respects_inParallel each _ _ _ _ _ (drawn _)
  | decorator transform =>
    cases runs with
    | nil => exact fun _ _ _ => .error
    | cons run runs =>
      exact transform.respects_runner (each run (by simp))
  | leaf behavior =>
    intro board twin related
    rcases here board twin related with ⟨sameStatus, relatedAfter⟩
    simp only [Kind.runner, sameStatus]
    exact .ok relatedAfter

mutual

/-- A run respects what every node respects. -/
theorem Respects.run {bound : Nat} :
    (tree : Tree ι Unit β) → tree.Respects rel →
      Runner.Respects rel (tree.run bound)
  | node _ _ kind children, respects => by
    rw [Respects] at respects
    rw [Tree.run]
    exact respects_runner respects.1
      (Respects.runners children respects.2)

theorem Respects.runners {bound : Nat} :
    (trees : List (Tree ι Unit β)) → RespectsList rel trees →
      ∀ run ∈ runners bound trees, run.Respects rel
  | [], _ => by simp
  | tree :: trees, respects => by
    rw [RespectsList] at respects
    intro run among
    rw [Tree.runners] at among
    rcases List.mem_cons.mp among with rfl | among
    · exact Respects.run tree respects.1
    · exact Respects.runners trees respects.2 run among

end

/-- A run on a related blackboard comes to the same answer. -/
theorem Respects.ensures {tree : Tree ι Unit β} {bound : Nat}
    (respects : tree.Respects rel) {board twin : β} (related : rel board twin)
    {post : Status → β → Prop}
    (ensures : tree.Ensures bound board post) :
    ∃ status after twinAfter,
      tree.run bound board = .ok (status, after) ∧
      tree.run bound twin = .ok (status, twinAfter) ∧
      post status after ∧ rel after twinAfter := by
  rcases ensures with ⟨status, after, ran, holds⟩
  have both : Runner.Matches rel (tree.run bound board) (tree.run bound twin) :=
    Respects.run tree respects board twin related
  rw [ran] at both
  generalize ranToo : tree.run bound twin = result at both
  cases both with
  | ok relatedAfter => exact ⟨status, after, _, ran, rfl, holds, relatedAfter⟩

end Tree

/-! ## Specifications -/

namespace Spec

variable {name : String} {children : List (Spec Unit β)}

@[simp]
theorem respects_sequence :
    (sequence name children).Respects rel ↔
      ∀ child ∈ children, child.Respects rel := by
  simp [sequence, Tree.Respects, Kind.Respects]

@[simp]
theorem respects_fallback :
    (fallback name children).Respects rel ↔
      ∀ child ∈ children, child.Respects rel := by
  simp [fallback, Tree.Respects, Kind.Respects]

theorem respects_parallel {minSuccess : Nat} :
    (parallel name minSuccess children).Respects rel ↔
      (Kind.parallel minSuccess : Kind Unit β).Respects rel ∧
        ∀ child ∈ children, child.Respects rel := by
  simp [parallel, Tree.Respects]

@[simp]
theorem respects_decorate {transform : Decorator} {child : Spec Unit β} :
    (decorate name transform child).Respects rel ↔ child.Respects rel := by
  simp [decorate, Tree.Respects, Kind.Respects]

theorem respects_action {act : β → Status × β}
    (same : ∀ board twin, rel board twin →
      (act twin).1 = (act board).1 ∧ rel (act board).2 (act twin).2) :
    (action name act : Spec Unit β).Respects rel := by
  simpa [action, ofLeaf, Leaf.ofAct, Tree.Respects, Kind.Respects] using same

theorem respects_condition {holds : β → Bool}
    (same : ∀ board twin, rel board twin → holds twin = holds board) :
    (condition name holds : Spec Unit β).Respects rel := by
  simp only [condition, ofLeaf, Leaf.ofAct, Tree.Respects, Kind.Respects,
    Tree.RespectsList, and_true]
  intro board twin related
  exact ⟨congrArg Status.ofBool (same board twin related), related⟩

theorem respects_effect {act : β → β}
    (keeps : ∀ board twin, rel board twin → rel (act board) (act twin)) :
    (effect name act : Spec Unit β).Respects rel :=
  respects_action fun board twin related => ⟨rfl, keeps board twin related⟩

theorem respects_decision {weight : Weight}
    (same : ∀ decision board twin, rel board twin →
      (Blackboard.decide decision twin).1 =
          (Blackboard.decide decision board).1 ∧
        rel (Blackboard.decide decision board).2
          (Blackboard.decide decision twin).2) :
    (decision name weight : Spec Unit β).Respects rel := by
  simpa [decision, ofLeaf, Leaf.ofAct, Tree.Respects, Kind.Respects] using
    same ⟨name, weight⟩

end Spec

end Disclosure
