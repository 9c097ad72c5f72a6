import Disclosure.Proofs.Tree.Respects

/-!
# Changes that a tree ignores

A tree ignores a change of the blackboard when it does not matter whether the
change is made before the tree is run or afterwards: the answer is the same, and
so is the blackboard in the end.  A tree ignores what all of its leaves ignore,
provided that the change leaves the random source of parallel nodes alone.
-/

namespace Disclosure

variable {ι β : Type} {change : β → β}

/-! ## Runners -/

namespace Runner

/-- The change may as well be made after the run. -/
def Ignores (change : β → β) (run : Runner β) : Prop :=
  ∀ board, run (change board) = (run board).map (Prod.map id change)

/-- To ignore a change is to respect that it was made. -/
theorem Respects.ignores {run : Runner β}
    (respects : run.Respects fun board twin => twin = change board) :
    run.Ignores change := by
  intro board
  have both := respects board (change board) rfl
  generalize run board = ran at both ⊢
  generalize run (change board) = ranToo at both ⊢
  cases both with
  | ok related =>
    rw [related]
    rfl
  | error => rfl

end Runner

/-! ## Trees -/

variable [Blackboard β]

/-- A leaf ignores the change, and where chance is drawn on, it is not changed. -/
def Kind.Ignores (change : β → β) : Kind Unit β → Prop
  | leaf behavior => ∀ board,
      behavior.act () (change board) =
        ((behavior.act () board).1, (), change (behavior.act () board).2.2)
  | parallel _ => ∀ board,
      Blackboard.random (change board) = Blackboard.random board ∧
        ∀ stream, Blackboard.setRandom stream (change board) =
          change (Blackboard.setRandom stream board)
  | _ => True

theorem Kind.Ignores.respects {kind : Kind Unit β}
    (ignores : kind.Ignores change) :
    kind.Respects fun board twin => twin = change board := by
  cases kind with
  | leaf behavior =>
    rintro board _ rfl
    rw [ignores board]
    exact ⟨rfl, rfl⟩
  | parallel minSuccess =>
    rintro board _ rfl
    exact ignores board
  | sequence | fallback | decorator => trivial

namespace Tree

mutual

/-- Every node ignores the change. -/
def Ignores (change : β → β) : Tree ι Unit β → Prop
  | node _ _ kind children =>
    kind.Ignores change ∧ IgnoresList change children

/-- Several trees that ignore the change. -/
def IgnoresList (change : β → β) : List (Tree ι Unit β) → Prop
  | [] => True
  | tree :: trees => tree.Ignores change ∧ IgnoresList change trees

end

@[simp]
theorem ignoresList_iff (trees : List (Tree ι Unit β)) :
    IgnoresList change trees ↔ ∀ tree ∈ trees, tree.Ignores change := by
  induction trees with
  | nil => simp [IgnoresList]
  | cons tree trees ih => simp [IgnoresList, ih]

mutual

theorem Ignores.respects :
    (tree : Tree ι Unit β) → tree.Ignores change →
      tree.Respects fun board twin => twin = change board
  | node _ _ kind children, ignores => by
    rw [Ignores] at ignores
    rw [Respects]
    exact ⟨ignores.1.respects, IgnoresList.respects children ignores.2⟩

theorem IgnoresList.respects :
    (trees : List (Tree ι Unit β)) → IgnoresList change trees →
      RespectsList (fun board twin => twin = change board) trees
  | [], _ => trivial
  | tree :: trees, ignores => by
    rw [IgnoresList] at ignores
    exact ⟨Ignores.respects tree ignores.1,
      IgnoresList.respects trees ignores.2⟩

end

/-- A run ignores what every node ignores. -/
theorem Ignores.run {bound : Nat} (tree : Tree ι Unit β)
    (ignores : tree.Ignores change) :
    Runner.Ignores change (tree.run bound) :=
  (Respects.run tree (ignores.respects tree)).ignores

/-- So the change may be made before or after, whatever shall be ensured. -/
theorem Ignores.ensures {tree : Tree ι Unit β} {bound : Nat}
    (ignores : tree.Ignores change)
    {board : β} {post : Status → β → Prop}
    (ensures : tree.Ensures bound board fun status after =>
      post status (change after)) :
    tree.Ensures bound (change board) post := by
  rcases ensures with ⟨status, after, ran, holds⟩
  refine ⟨status, change after, ?_, holds⟩
  rw [Ignores.run tree ignores board, ran]
  rfl

end Tree

/-! ## Specifications -/

namespace Spec

variable {name : String} {children : List (Spec Unit β)}

@[simp]
theorem ignores_sequence :
    (sequence name children).Ignores change ↔
      ∀ child ∈ children, child.Ignores change := by
  simp [sequence, Tree.Ignores, Kind.Ignores]

@[simp]
theorem ignores_fallback :
    (fallback name children).Ignores change ↔
      ∀ child ∈ children, child.Ignores change := by
  simp [fallback, Tree.Ignores, Kind.Ignores]

theorem ignores_action {act : β → Status × β}
    (same : ∀ board,
      act (change board) = ((act board).1, change (act board).2)) :
    (action name act : Spec Unit β).Ignores change := by
  simp [action, ofLeaf, Leaf.ofAct, Tree.Ignores, Kind.Ignores, same]

theorem ignores_condition {holds : β → Bool}
    (same : ∀ board, holds (change board) = holds board) :
    (condition name holds : Spec Unit β).Ignores change := by
  simp [condition, ofLeaf, Leaf.ofAct, Tree.Ignores, Kind.Ignores, same]

theorem ignores_effect {act : β → β}
    (commutes : ∀ board, act (change board) = change (act board)) :
    (effect name act : Spec Unit β).Ignores change :=
  ignores_action fun board => by rw [commutes]

theorem ignores_decision {weight : Weight}
    (same : ∀ decision board,
      Blackboard.decide decision (change board) =
        ((Blackboard.decide decision board).1,
          change (Blackboard.decide decision board).2)) :
    (decision name weight : Spec Unit β).Ignores change := by
  simp [decision, ofLeaf, Leaf.ofAct, Tree.Ignores, Kind.Ignores, same]

end Spec

end Disclosure
