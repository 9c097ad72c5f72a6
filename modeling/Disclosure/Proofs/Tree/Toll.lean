import Disclosure.Proofs.Random.Draw
import Disclosure.Proofs.Tree.Law
import Mathlib.Algebra.BigOperators.Group.List.Basic
import Mathlib.Algebra.Ring.Nat

/-!
# Tolls of trees

A toll is a law with a price: it says what may happen at which cost, and costs
add up when one step follows another.  A sequence, a choice and a parallel node
cost no more than all their children together, and what obeys the law of free
steps costs nothing.
-/

namespace Disclosure

variable {ι β : Type}

/-- What may happen at which cost. -/
structure Toll (β : Type) where
  holds : Nat → β → β → Prop
  rest : ∀ board, holds 0 board board
  trans : ∀ {first last before middle after}, holds first before middle →
    holds last middle after → holds (first + last) before after
  /-- To pay more is always possible. -/
  mono : ∀ {paid more before after}, paid ≤ more →
    holds paid before after → holds more before after

namespace Toll

/-- The law of what is free. -/
def free (toll : Toll β) : Law β where
  holds before _ after := toll.holds 0 before after
  rest board _ _ := toll.rest board
  trans first last := toll.trans first last
  settle _ holds _ := holds

theorem lenient_free (toll : Toll β) : toll.free.Lenient :=
  fun _ holds => holds

end Toll

/-! ## Runners -/

namespace Runner

open TickError

variable {toll : Toll β} {cost : Nat}

/-- Every run that comes to an answer keeps to the cost. -/
def Pays (toll : Toll β) (cost : Nat) (run : Runner β) : Prop :=
  ∀ board status after, run board = .ok (status, after) →
    toll.holds cost board after

theorem pays_inOrder {through : Status} {costs : List Nat}
    {runs : List (Runner β)}
    (each : List.Forall₂ (Pays toll) costs runs) :
    (inOrder through runs).Pays toll costs.sum := by
  induction each with
  | nil =>
    intro board status after ends
    cases ends
    exact toll.rest board
  | @cons cost run costs runs pays _ ih =>
    intro board status after ends
    rcases exists_of_bind ends with ⟨⟨first, middle⟩, ran, goes⟩
    have begins := pays board first middle ran
    rw [List.sum_cons]
    by_cases goesOn : first = through
    · rw [if_pos goesOn] at goes
      exact toll.trans begins (ih middle status after goes)
    · rw [if_neg goesOn] at goes
      cases goes
      exact toll.mono (Nat.le_add_right cost costs.sum) begins

/-- What the runs of some numbers cost together. -/
def bill (costs : List Nat) (order : List Nat) : Nat :=
  (order.map fun index => costs[index]?.getD 0).sum

/-- The order does not matter for the bill. -/
theorem bill_of_perm {costs order : List Nat}
    (permuted : order.Perm (List.range costs.length)) :
    bill costs order = costs.sum := by
  rw [bill, (permuted.map _).sum_eq]
  congr 1
  apply List.ext_getElem
  · simp
  · intro index inside insideToo
    simp [insideToo]

theorem pays_inParallel {costs : List Nat} {runs : List (Runner β)}
    {minSuccess maxFailures : Nat}
    (each : List.Forall₂ (Pays toll) costs runs)
    (order : List Nat) (successes failures : Nat) :
    (inParallel runs minSuccess maxFailures order successes failures).Pays
      toll (bill costs order) := by
  induction order generalizing successes failures with
  | nil =>
    intro board status after ends
    cases ends
    exact toll.rest board
  | cons index order ih =>
    intro board status after ends
    simp only [inParallel] at ends
    cases found : runs[index]? with
    | none =>
      rw [found] at ends
      cases ends
    | some run =>
      rw [found] at ends
      rcases exists_of_bind ends with ⟨⟨first, middle⟩, ran, goes⟩
      rcases List.getElem?_eq_some_iff.mp found with ⟨inside, same⟩
      have insideCosts : index < costs.length := each.length_eq ▸ inside
      have begins : toll.holds costs[index] board middle := by
        have pays := each.get insideCosts inside
        rw [List.get_eq_getElem, List.get_eq_getElem, same] at pays
        exact pays board first middle ran
      have price : bill costs (index :: order) =
          costs[index] + bill costs order := by
        simp [bill, insideCosts]
      have stops : toll.holds (bill costs (index :: order)) board middle :=
        price ▸ toll.mono (Nat.le_add_right ..) begins
      have goesOn : toll.holds (bill costs order) middle after →
          toll.holds (bill costs (index :: order)) board after :=
        fun rest => price ▸ toll.trans begins rest
      cases first with
      | success =>
        by_cases enough : minSuccess ≤ successes + 1
        · simp only [if_pos enough] at goes
          cases goes
          exact stops
        · simp only [if_neg enough] at goes
          exact goesOn (ih _ _ middle status after goes)
      | failure =>
        by_cases tooMany : maxFailures < failures + 1
        · simp only [if_pos tooMany] at goes
          cases goes
          exact stops
        · simp only [if_neg tooMany] at goes
          exact goesOn (ih _ _ middle status after goes)
      | running => exact goesOn (ih _ _ middle status after goes)

theorem pays_parallel [Blackboard β] {costs : List Nat}
    {runs : List (Runner β)} {minSuccess : Nat}
    (draw : ∀ stream board,
      toll.holds 0 board (Blackboard.setRandom stream board))
    (each : List.Forall₂ (Pays toll) costs runs) :
    (parallel minSuccess runs).Pays toll costs.sum := by
  intro board status after ends
  simp only [parallel] at ends
  split at ends
  · cases ends
  · have permuted := RandomStream.shuffle_perm (Blackboard.random board)
      (List.range runs.length)
    rw [← each.length_eq] at permuted
    rw [← bill_of_perm permuted, ← Nat.zero_add (bill _ _)]
    rw [← each.length_eq] at ends
    exact toll.trans (draw _ board)
      (pays_inParallel each _ _ _ _ status after ends)

end Runner

/-! ## Trees -/

variable [Blackboard β]

namespace Tree

variable {toll : Toll β} {cost : Nat}

/-- Whatever the bound, a run of the tree keeps to the cost. -/
def Pays (toll : Toll β) (cost : Nat) (tree : Tree ι Unit β) : Prop :=
  ∀ bound, (tree.run bound).Pays toll cost

/-- What obeys the law of free steps costs nothing. -/
theorem Pays.of_obeys {tree : Tree ι Unit β}
    (obeys : tree.Obeys toll.free) :
    tree.Pays toll 0 :=
  fun _ => Obeys.run tree obeys

/-- Whatever else is ensured, the cost is kept to. -/
theorem Ensures.paid {tree : Tree ι Unit β} {bound : Nat} {board : β}
    {post : Status → β → Prop}
    (ensures : tree.Ensures bound board post)
    (pays : tree.Pays toll cost) :
    tree.Ensures bound board fun status after =>
      post status after ∧ toll.holds cost board after := by
  rcases ensures with ⟨status, after, ran, holds⟩
  exact ⟨status, after, ran, holds, pays bound board status after ran⟩

theorem pays_runners {costs : List Nat} {trees : List (Tree ι Unit β)}
    (each : List.Forall₂ (Pays toll) costs trees)
    (bound : Nat) :
    List.Forall₂ (Runner.Pays toll) costs (runners bound trees) := by
  rw [runners_eq_map, List.forall₂_map_right_iff]
  exact each.imp fun _ _ pays => pays bound

end Tree

namespace Spec

variable {toll : Toll β} {cost : Nat} {name : String}
  {children : List (Spec Unit β)}

section Composite

variable (costs : List Nat)
  (each : List.Forall₂ (Tree.Pays toll) costs children)
  (total : costs.sum = cost)

include each total

theorem pays_sequence : (sequence name children).Pays toll cost := by
  intro bound
  rw [sequence, Tree.run, ← total]
  exact Runner.pays_inOrder (Tree.pays_runners each bound)

theorem pays_fallback : (fallback name children).Pays toll cost := by
  intro bound
  rw [fallback, Tree.run, ← total]
  exact Runner.pays_inOrder (Tree.pays_runners each bound)

theorem pays_parallel {minSuccess : Nat}
    (draw : ∀ stream board,
      toll.holds 0 board (Blackboard.setRandom stream board)) :
    (parallel name minSuccess children).Pays toll cost := by
  intro bound
  rw [parallel, Tree.run, ← total]
  exact Runner.pays_parallel draw (Tree.pays_runners each bound)

end Composite

theorem pays_forceSuccess {child : Spec Unit β}
    (pays : child.Pays toll cost) :
    (forceSuccess name child).Pays toll cost := by
  intro bound board status after ends
  rw [forceSuccess, decorate, Tree.run] at ends
  rcases TickError.exists_of_bind ends with ⟨⟨first, middle⟩, ran, goes⟩
  cases goes
  exact pays bound board first middle ran

theorem pays_effect {change : β → β}
    (pays : ∀ board, toll.holds cost board (change board)) :
    (effect name change : Spec Unit β).Pays toll cost := by
  intro bound board status after ends
  cases ends
  exact pays board

end Spec

end Disclosure
