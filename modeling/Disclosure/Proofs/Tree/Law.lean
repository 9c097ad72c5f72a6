import Disclosure.Proofs.Tree.Answers
import Disclosure.Proofs.Tree.Ensures

/-!
# Laws of trees

A law is about the blackboard before a step, the answer, and the blackboard after
it.  Laws hold of one step after the other when they hold of each; so whatever
all leaves of a tree obey, every run of the tree obeys.
-/

namespace Disclosure

variable {ι β : Type}

/-- What is demanded of a step, from its beginning to its end. -/
structure Law (β : Type) where
  holds : β → Status → β → Prop
  /-- A step may do nothing, if its answer is settled. -/
  rest : ∀ board status, status ≠ .running → holds board status board
  /-- Of two steps, the answer of the second one counts. -/
  trans : ∀ {before middle after first last}, holds before first middle →
    holds middle last after → holds before last after
  /-- An answer may be exchanged for a settled one. -/
  settle : ∀ {before after first} last, holds before first after →
    last ≠ .running → holds before last after

namespace Law

/-- An answer may be exchanged for any one, also for one that is not settled. -/
def Lenient (law : Law β) : Prop :=
  ∀ {before after first} last, law.holds before first after →
    law.holds before last after

/-- What is left running stays running, whatever comes after it. -/
def Lingers (law : Law β) : Prop :=
  ∀ {before middle after last}, law.holds before .running middle →
    law.holds middle last after → law.holds before .running after

/-- With such a threshold children can be left running. -/
def Patient (law : Law β) (minSuccess : Nat) : Prop :=
  law.Lenient ∨ law.Lingers ∧ 0 < minSuccess

variable {law : Law β} {before after : β} {answers : List Status}

/-- After several lawful steps any settled answer is lawful. -/
theorem settled_of_passes (passes : Passes law.holds before answers after)
    (settled : Status) (answer : settled ≠ .running) :
    law.holds before settled after := by
  induction passes with
  | none => exact law.rest _ settled answer
  | next first rest ih => exact law.trans first ih

/-- The answer of the last step is a lawful one of all steps. -/
theorem last_of_passes (passes : Passes law.holds before answers after)
    {last : Status} (ends : answers.getLast? = some last) :
    law.holds before last after := by
  induction passes with
  | none => cases ends
  | next first rest ih =>
    cases rest with
    | none =>
      cases ends
      exact first
    | next second rest =>
      rw [List.getLast?_cons_cons] at ends
      exact law.trans first (ih ends)

theorem Lingers.running_of_passes (lingers : law.Lingers)
    (passes : Passes law.holds before answers after)
    (running : .running ∈ answers) :
    law.holds before .running after := by
  induction passes with
  | none => cases running
  | next first rest ih =>
    rcases List.mem_cons.mp running with here | later
    · subst here
      exact lingers first (law.settled_of_passes rest .success (by decide))
    · exact law.trans first (ih later)

theorem of_relays {answer : Status}
    (relays : Relays law.holds before answer after) :
    law.holds before answer after := by
  rcases relays with ⟨answers, passes, relayed⟩
  by_cases running : answer = .running
  · rw [running]
    exact law.last_of_passes passes (relayed running)
  · exact law.settled_of_passes passes answer running

end Law

namespace Runner

/-- The law holds of every run that comes to an answer. -/
def Obeys (law : Law β) (run : Runner β) : Prop :=
  ∀ board status after, run board = .ok (status, after) →
    law.holds board status after

end Runner

/-- Only one decorator makes up an answer that is not settled. -/
def Decorator.Honors (law : Law β) : Decorator → Prop
  | forceRunning => law.Lenient
  | _ => True

/-! ## Trees -/

variable [Blackboard β]

/-- A leaf obeys the law, and where answers are made up or chance is drawn on,
this is lawful. -/
def Kind.Obeys (law : Law β) : Kind Unit β → Prop
  | leaf behavior => ∀ board,
      law.holds board (behavior.act () board).1 (behavior.act () board).2.2
  | parallel minSuccess => law.Patient minSuccess ∧ ∀ stream board,
      law.holds board .success (Blackboard.setRandom stream board)
  | decorator transform => transform.Honors law
  | _ => True

/-- What a node that obeys can come to by lawful steps is lawful. -/
theorem Kind.Obeys.of_concludes {law : Law β} {kind : Kind Unit β} {children : Nat}
    {before after : β} {answer : Status}
    (obeys : kind.Obeys law)
    (concludes : kind.Concludes law.holds children before answer after) :
    law.holds before answer after := by
  cases kind with
  | sequence | fallback => exact law.of_relays concludes
  | parallel minSuccess =>
    rcases concludes with ⟨within, stream, answers, passes, decides⟩
    have drawn := obeys.2 stream before
    by_cases running : answer = .running
    · subst running
      rcases obeys.1 with lenient | ⟨lingers, positive⟩
      · exact lenient .running (law.trans drawn
          (law.settled_of_passes passes .success (by decide)))
      · exact law.trans drawn (lingers.running_of_passes passes
          ((decides positive).running_mem within))
    · exact law.trans drawn (law.settled_of_passes passes answer running)
  | decorator transform =>
    rw [Kind.Concludes] at concludes
    split at concludes
    next made =>
      subst made
      rcases concludes with ⟨status, moved⟩
      exact obeys answer moved
    next => exact law.of_relays concludes
  | leaf behavior =>
    rcases concludes with ⟨memory, rfl, rfl⟩
    exact obeys before

namespace Tree

variable {law : Law β}

mutual

/-- Every node obeys the law. -/
def Obeys (law : Law β) : Tree ι Unit β → Prop
  | node _ _ kind children => kind.Obeys law ∧ ObeysList law children

/-- Several trees that obey the law. -/
def ObeysList (law : Law β) : List (Tree ι Unit β) → Prop
  | [] => True
  | tree :: trees => tree.Obeys law ∧ ObeysList law trees

end

@[simp]
theorem obeysList_iff (trees : List (Tree ι Unit β)) :
    ObeysList law trees ↔ ∀ tree ∈ trees, tree.Obeys law := by
  induction trees with
  | nil => simp [ObeysList]
  | cons tree trees ih => simp [ObeysList, ih]

mutual

theorem Obeys.tick {bound : Nat} :
    (tree : Tree ι Unit β) → tree.Obeys law →
      (tree.tick bound).Makes law.holds
  | node _ _ kind children, obeys => by
    rw [Obeys] at obeys
    rw [Tree.tick]
    intro state board step ends
    exact obeys.1.of_concludes
      (Ticker.Makes.node (Obeys.tickers children obeys.2) bound kind _ _ _ ends)

theorem Obeys.tickers {bound : Nat} :
    (trees : List (Tree ι Unit β)) → ObeysList law trees →
      ∀ tick ∈ tickers bound trees, tick.Makes law.holds
  | [], _ => by simp
  | tree :: trees, obeys => by
    rw [ObeysList] at obeys
    intro tick among
    rw [Tree.tickers] at among
    rcases List.mem_cons.mp among with rfl | among
    · exact Obeys.tick tree obeys.1
    · exact Obeys.tickers trees obeys.2 tick among

end

/-- What every node obeys, a run obeys: it does what a first tick does. -/
theorem Obeys.run {bound : Nat} (tree : Tree ι Unit β) (obeys : tree.Obeys law) :
    Runner.Obeys law (tree.run bound) := by
  intro board status after ran
  have follows := tick_follows_run bound tree (.blank tree) board
    (Trace.blank_fits tree)
  rw [ran] at follows
  cases ticked : tree.tick bound (.blank tree) board with
  | error found =>
    rw [ticked] at follows
    exact follows.elim
  | ok step =>
    rw [ticked] at follows
    rcases follows with ⟨rfl, rfl, _⟩
    exact Obeys.tick tree obeys _ _ _ ticked

/-- Whatever else is ensured, the law holds as well. -/
theorem Ensures.lawful {tree : Tree ι Unit β} {bound : Nat} {board : β}
    {post : Status → β → Prop}
    (ensures : tree.Ensures bound board post)
    (obeys : tree.Obeys law) :
    tree.Ensures bound board fun status after =>
      post status after ∧ law.holds board status after := by
  rcases ensures with ⟨status, after, ran, holds⟩
  exact ⟨status, after, ran, holds,
    Obeys.run tree obeys board status after ran⟩

end Tree

/-! ## Specifications -/

namespace Spec

variable {law : Law β} {name : String} {children : List (Spec Unit β)}

@[simp]
theorem obeys_sequence :
    (sequence name children).Obeys law ↔
      ∀ child ∈ children, child.Obeys law := by
  simp [sequence, Tree.Obeys, Kind.Obeys]

@[simp]
theorem obeys_fallback :
    (fallback name children).Obeys law ↔
      ∀ child ∈ children, child.Obeys law := by
  simp [fallback, Tree.Obeys, Kind.Obeys]

@[simp]
theorem obeys_parallel {minSuccess : Nat} :
    (parallel name minSuccess children).Obeys law ↔
      (law.Patient minSuccess ∧ ∀ stream board,
        law.holds board .success (Blackboard.setRandom stream board)) ∧
      ∀ child ∈ children, child.Obeys law := by
  simp [parallel, Tree.Obeys, Kind.Obeys]

@[simp]
theorem obeys_decorate {transform : Decorator} {child : Spec Unit β} :
    (decorate name transform child).Obeys law ↔
      transform.Honors law ∧ child.Obeys law := by
  simp [decorate, Tree.Obeys, Kind.Obeys]

@[simp]
theorem obeys_action {act : β → Status × β} :
    (action name act : Spec Unit β).Obeys law ↔
      ∀ board, law.holds board (act board).1 (act board).2 := by
  simp [action, ofLeaf, Leaf.ofAct, Tree.Obeys, Kind.Obeys]

@[simp]
theorem obeys_effect {change : β → β} :
    (effect name change : Spec Unit β).Obeys law ↔
      ∀ board, law.holds board .success (change board) := by
  rw [effect, obeys_action]

@[simp]
theorem obeys_condition {fact : β → Bool} :
    (condition name fact : Spec Unit β).Obeys law := by
  simp only [condition, ofLeaf, Leaf.ofAct, Tree.Obeys, Kind.Obeys,
    Tree.ObeysList, and_true]
  intro board
  apply law.rest
  cases fact board <;> decide

@[simp]
theorem obeys_decision {weight : Weight} :
    (decision name weight : Spec Unit β).Obeys law ↔
      ∀ board, law.holds board (Blackboard.decide ⟨name, weight⟩ board).1
        (Blackboard.decide ⟨name, weight⟩ board).2 := by
  simp [decision, ofLeaf, Leaf.ofAct, Tree.Obeys, Kind.Obeys]

end Spec

/-! ## Laws of a kind -/

namespace Law

variable {γ δ : Type}

/-- Part of the blackboard stays as it is. -/
def keeping (view : β → γ) : Law β where
  holds before _ after := view after = view before
  rest _ _ _ := rfl
  trans first second := second.trans first
  settle _ same _ := same

omit [Blackboard β] in
theorem lenient_keeping (view : β → γ) : (keeping view).Lenient :=
  fun _ same => same

end Law

end Disclosure
