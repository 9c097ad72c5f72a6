import Disclosure.Proofs.Tree.Law

/-!
# Larger bounds

A tick depends on its bound only in having a result or not: a larger bound never
changes a result.
-/

namespace Disclosure

variable {ι σ μ β : Type}

namespace Ticker

/-- Each result of the first ticker is a result of the second one. -/
def Extends (tick larger : Ticker σ β) : Prop :=
  ∀ state board step, tick state board = .ok step →
    larger state board = .ok step

namespace Extends

/-- What has a result in two parts has it when each part has the same result. -/
theorem bind {α γ : Type} {ran larger : Except TickError α}
    {next largerNext : α → Except TickError γ} {result : γ}
    (ends : (ran >>= next) = .ok result)
    (first : ∀ middle, ran = .ok middle → larger = .ok middle)
    (second : ∀ middle, next middle = .ok result →
      largerNext middle = .ok result) :
    (larger >>= largerNext) = .ok result := by
  cases ran with
  | error found => cases ends
  | ok middle =>
    rw [first middle rfl]
    exact second middle ends

variable {tick larger : Ticker σ β}

theorem mapStatus (grows : Extends tick larger)
    (change : Status → Status) :
    Extends (tick.mapStatus change) (larger.mapStatus change) := by
  intro state board step ends
  exact bind ends (grows _ _) fun _ same => same

theorem repeatWhile (grows : Extends tick larger)
    (through : Status) (times : Nat) :
    Extends (tick.repeatWhile through times)
      (larger.repeatWhile through times) := by
  induction times with
  | zero => exact fun _ _ _ ends => ends
  | succ times ih =>
    intro state board step ends
    refine bind ends (grows _ _) fun middle goes => ?_
    by_cases goesOn : middle.status = through
    · rw [if_pos goesOn] at goes ⊢
      exact ih _ _ _ goes
    · rw [if_neg goesOn] at goes ⊢
      exact goes

/-- A loop that ends before its bound ends before a larger one. -/
theorem untilFailure (grows : Extends tick larger)
    {bound more : Nat}
    (atMost : bound ≤ more) :
    Extends (tick.untilFailure bound) (larger.untilFailure more) := by
  induction bound generalizing more with
  | zero =>
    intro state board step ends
    cases ends
  | succ bound ih =>
    obtain ⟨rest, rfl⟩ : ∃ rest, more = rest + 1 := ⟨more - 1, by omega⟩
    intro state board step ends
    refine bind ends (grows _ _) fun middle goes => ?_
    cases answer : middle.status with
    | success =>
      rw [answer] at goes
      exact ih (by omega) _ _ _ goes
    | failure | running =>
      rw [answer] at goes
      exact goes

theorem decorator (grows : Extends tick larger)
    {bound more : Nat}
    (atMost : bound ≤ more) (transform : Decorator) :
    Extends (transform.ticker bound tick) (transform.ticker more larger) := by
  cases transform with
  | invert | forceSuccess | forceFailure | forceRunning | runningIsSuccess
  | runningIsFailure =>
    rw [Decorator.ticker, Decorator.ticker]
    exact grows.mapStatus _
  | retry times => exact grows.repeatWhile .failure times
  | repeated times => exact grows.repeatWhile .success times
  | untilFailure => exact grows.untilFailure atMost

section Composites

variable [Blackboard β] {bound more : Nat}

/-- Each child of a node has more results with a larger bound. -/
abbrev EachExtends (bound more : Nat) (trees : List (Tree ι μ β)) : Prop :=
  ∀ tree ∈ trees, Extends (tree.tick bound) (tree.tick more)

theorem inOrder {trees : List (Tree ι μ β)}
    (grow : EachExtends bound more trees)
    (through : Status) :
    Extends (Ticker.inOrder through (trees.map (Tree.tick bound)))
      (Ticker.inOrder through (trees.map (Tree.tick more))) := by
  induction trees with
  | nil => exact fun _ _ _ ends => ends
  | cons tree trees ih =>
    have rest : EachExtends bound more trees :=
      fun other member => grow other (by simp [member])
    intro states board step ends
    cases states with
    | nil => cases ends
    | cons state states =>
      refine bind ends (grow tree (by simp) _ _) fun middle goes => ?_
      by_cases goesOn : middle.status = through
      · rw [if_pos goesOn] at goes ⊢
        exact bind goes (ih rest _ _) fun _ same => same
      · rw [if_neg goesOn] at goes ⊢
        exact goes

theorem inParallel {trees : List (Tree ι μ β)}
    (grow : EachExtends bound more trees)
    (minSuccess maxFailures : Nat) (order : List Nat)
    (successes failures : Nat) :
    Extends
      (Ticker.inParallel (trees.map (Tree.tick bound)) minSuccess maxFailures
        order successes failures)
      (Ticker.inParallel (trees.map (Tree.tick more)) minSuccess maxFailures
        order successes failures) := by
  induction order generalizing successes failures with
  | nil => exact fun _ _ _ ends => ends
  | cons index order ih =>
    intro states board step ends
    simp only [Ticker.inParallel, List.getElem?_map] at ends ⊢
    cases found : trees[index]? with
    | none =>
      rw [found] at ends
      cases ends
    | some tree =>
      cases remembered : states[index]? with
      | none =>
        rw [found, remembered] at ends
        cases ends
      | some state =>
        rw [found, remembered] at ends
        have member := List.mem_of_getElem? found
        refine bind ends (grow tree member _ _) fun middle goes => ?_
        cases answer : middle.status with
        | success =>
          rw [answer] at goes
          simp only at goes ⊢
          by_cases enough : minSuccess ≤ successes + 1
          · rw [if_pos enough] at goes ⊢
            exact goes
          · rw [if_neg enough] at goes ⊢
            exact ih _ _ _ _ _ goes
        | failure =>
          rw [answer] at goes
          simp only at goes ⊢
          by_cases tooMany : maxFailures < failures + 1
          · rw [if_pos tooMany] at goes ⊢
            exact goes
          · rw [if_neg tooMany] at goes ⊢
            exact ih _ _ _ _ _ goes
        | running =>
          rw [answer] at goes
          exact ih _ _ _ _ _ goes

theorem kind {trees : List (Tree ι μ β)}
    (grow : EachExtends bound more trees)
    (atMost : bound ≤ more) (kind : Kind μ β) :
    Extends (kind.ticker bound (trees.map (Tree.tick bound)))
      (kind.ticker more (trees.map (Tree.tick more))) := by
  rintro ⟨status, count, memory, traces⟩ board step ends
  cases kind with
  | sequence =>
    exact bind ends (inOrder grow .success _ _) fun _ same => same
  | fallback =>
    exact bind ends (inOrder grow .failure _ _) fun _ same => same
  | parallel minSuccess =>
    refine bind ends ?_ fun _ same => same
    intro middle ticked
    simp only [Ticker.parallel, List.length_map] at ticked ⊢
    split at ticked
    · cases ticked
    · rw [if_neg ‹_›]
      exact inParallel grow _ _ _ _ _ _ _ _ ticked
  | decorator transform =>
    cases traces with
    | nil => cases ends
    | cons trace traces =>
      cases trees with
      | nil => cases ends
      | cons tree trees =>
        have child := grow tree (by simp)
        exact bind ends (child.decorator atMost transform _ _)
          fun _ same => same
  | leaf behavior => exact ends

end Composites

end Extends

end Ticker

namespace Tree

variable [Blackboard β] {bound more : Nat}

mutual

/-- A larger bound never changes a result. -/
theorem tick_extends (atMost : bound ≤ more) :
    (tree : Tree ι μ β) → (tree.tick bound).Extends (tree.tick more)
  | node _ _ kind children => by
    rw [tick, tick, tickers_eq_map, tickers_eq_map]
    exact .kind (ticks_extend atMost children) atMost kind

theorem ticks_extend (atMost : bound ≤ more) :
    (trees : List (Tree ι μ β)) →
      Ticker.Extends.EachExtends bound more trees
  | [] => fun _ member => by simp at member
  | tree :: trees => fun other member => by
    rcases List.mem_cons.mp member with same | later
    · rw [same]
      exact tick_extends atMost tree
    · exact ticks_extend atMost trees other later

end

/-- Neither does it for a run. -/
theorem run_extends {tree : Tree ι Unit β} {board : β}
    {result : Status × β}
    (atMost : bound ≤ more)
    (ran : tree.run bound board = .ok result) :
    tree.run more board = .ok result := by
  have fits := Trace.blank_fits tree
  have follows := tick_follows_run bound tree (.blank tree) board fits
  have followsMore := tick_follows_run more tree (.blank tree) board fits
  rw [ran] at follows
  cases ticked : tree.tick bound (.blank tree) board with
  | error found =>
    rw [ticked] at follows
    exact follows.elim
  | ok step =>
    rw [ticked] at follows
    rw [tick_extends atMost tree _ _ _ ticked] at followsMore
    rcases follows with ⟨sameStatus, sameBoard, _⟩
    cases ranMore : tree.run more board with
    | error found =>
      rw [ranMore] at followsMore
      exact followsMore.elim
    | ok other =>
      rw [ranMore] at followsMore
      rcases followsMore with ⟨otherStatus, otherBoard, _⟩
      rw [← Prod.eta result, ← Prod.eta other, ← sameStatus, ← sameBoard,
        ← otherStatus, ← otherBoard]

end Tree

theorem BehaviorTree.tick_extends [Blackboard β] {tree : BehaviorTree μ β}
    {bound more : Nat} {result : Status × BehaviorTree μ β}
    (atMost : bound ≤ more)
    (ticked : tree.tick bound = .ok result) :
    tree.tick more = .ok result := by
  refine Ticker.Extends.bind ticked ?_ fun _ same => same
  intro step stepped
  refine Ticker.Extends.bind stepped ?_ fun _ same => same
  exact Tree.tick_extends atMost _ _ _

end Disclosure
