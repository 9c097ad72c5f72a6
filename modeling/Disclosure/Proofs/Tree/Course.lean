import Disclosure.Proofs.Tree.Ensures

/-!
# Trees that keep to a course

A course says from which blackboards a tree starts, which single moves it may
make and which answers it may give.  A tree keeps to a course when from every
such blackboard it comes to one of these answers by such moves only.  Keeping to
a course passes from the parts of a tree to the whole.
-/

namespace Disclosure

/-- Moves on a blackboard, the blackboards they start from, and answers. -/
structure Course (β : Type) where
  ready : β → Prop
  move : β → β → Prop
  answers : Status → Prop
  stable : ∀ {before after}, ready before → move before after → ready after
  success : answers .success
  failure : answers .failure

namespace Course

variable {β : Type}

/-- Any number of moves. -/
abbrev Path (course : Course β) : β → β → Prop :=
  Relation.ReflTransGen course.move

theorem Path.ready {course : Course β} {before after : β}
    (path : course.Path before after)
    (ready : course.ready before) :
    course.ready after := by
  induction path with
  | refl => exact ready
  | tail _ move ih => exact course.stable ih move

variable [Blackboard β]

/-- The tree comes to one of the answers by moves of the course only. -/
def Covers (course : Course β) (bound : Nat) (tree : Spec Unit β) : Prop :=
  ∀ board, course.ready board →
    tree.Ensures bound board fun status after =>
      course.answers status ∧ course.Path board after

variable {course : Course β} {bound : Nat}

/-- Moves before a tree that is covered are moves of the course as well. -/
theorem Covers.after {tree : Spec Unit β}
    (covers : course.Covers bound tree)
    {start board : β}
    (ready : course.ready start)
    (path : course.Path start board) :
    tree.Ensures bound board fun status after =>
      course.answers status ∧ course.Path start after := by
  apply (covers board (path.ready ready)).mono
  rintro status after ⟨answer, further⟩
  exact ⟨answer, path.trans further⟩

/-- A sequence goes on only after its first part has succeeded. -/
theorem Covers.andThen {name : String} {child : Spec Unit β}
    {rest : List (Spec Unit β)}
    (first : course.Covers bound child)
    (second : course.Covers bound (Spec.sequence name rest)) :
    course.Covers bound (Spec.sequence name (child :: rest)) := by
  intro board ready
  rw [Spec.ensures_sequence_cons]
  apply (first board ready).mono
  rintro status middle ⟨answer, path⟩
  by_cases succeeded : status = .success
  · rw [if_pos succeeded]
    exact second.after ready path
  · rw [if_neg succeeded]
    exact ⟨answer, path⟩

theorem Covers.sequence {name : String} {children : List (Spec Unit β)}
    (each : ∀ child ∈ children, course.Covers bound child) :
    course.Covers bound (Spec.sequence name children) := by
  induction children with
  | nil =>
    intro board _
    rw [Spec.ensures_sequence_nil]
    exact ⟨course.success, .refl⟩
  | cons child children ih =>
    refine .andThen (each child (by simp)) (ih ?_)
    exact fun other member => each other (by simp [member])

/-- There is nothing left to do. -/
theorem Covers.done {name : String} :
    course.Covers bound (Spec.sequence name []) :=
  .sequence (by simp)

/-- A fallback goes on only after its first part has failed. -/
theorem Covers.orElse {name : String} {child : Spec Unit β}
    {rest : List (Spec Unit β)}
    (first : course.Covers bound child)
    (second : course.Covers bound (Spec.fallback name rest)) :
    course.Covers bound (Spec.fallback name (child :: rest)) := by
  intro board ready
  rw [Spec.ensures_fallback_cons]
  apply (first board ready).mono
  rintro status middle ⟨answer, path⟩
  by_cases failed : status = .failure
  · rw [if_pos failed]
    exact second.after ready path
  · rw [if_neg failed]
    exact ⟨answer, path⟩

theorem Covers.fallback {name : String} {children : List (Spec Unit β)}
    (each : ∀ child ∈ children, course.Covers bound child) :
    course.Covers bound (Spec.fallback name children) := by
  induction children with
  | nil =>
    intro board _
    rw [Spec.ensures_fallback_nil]
    exact ⟨course.failure, .refl⟩
  | cons child children ih =>
    refine .orElse (each child (by simp)) (ih ?_)
    exact fun other member => each other (by simp [member])

/-- There are no more alternatives. -/
theorem Covers.nothing {name : String} :
    course.Covers bound (Spec.fallback name []) :=
  .fallback (by simp)

/-- When one alternative never fails, neither does the choice. -/
theorem Covers.fallback_accepts {name : String}
    {children : List (Spec Unit β)} {child : Spec Unit β}
    (each : ∀ child ∈ children, course.Covers bound child)
    (member : child ∈ children)
    (accepts : ∀ board, course.ready board →
      child.Ensures bound board fun status _ => status ≠ .failure)
    {board : β}
    (ready : course.ready board) :
    (Spec.fallback name children).Ensures bound board fun status after =>
      status ≠ .failure ∧ course.answers status ∧ course.Path board after := by
  induction children generalizing board with
  | nil => cases member
  | cons first children ih =>
    rw [Spec.ensures_fallback_cons]
    have covered := each first (by simp) board ready
    have coveredRest : ∀ other ∈ children, course.Covers bound other :=
      fun other among => each other (by simp [among])
    rcases List.mem_cons.mp member with rfl | among
    · apply (covered.and (accepts board ready)).mono
      rintro status after ⟨⟨answer, path⟩, accepted⟩
      rw [if_neg accepted]
      exact ⟨accepted, answer, path⟩
    · apply covered.mono
      rintro status middle ⟨answer, path⟩
      by_cases failed : status = .failure
      · rw [if_pos failed]
        apply (ih coveredRest among (path.ready ready)).mono
        rintro status after ⟨accepted, answer, further⟩
        exact ⟨accepted, answer, path.trans further⟩
      · rw [if_neg failed]
        exact ⟨failed, answer, path⟩

/-- Children need only be covered where the guard before them holds. -/
theorem Covers.guarded {name : String} {guard : Spec Unit β}
    {children : List (Spec Unit β)} {holds : β → Bool}
    (guards : guard.Finds bound holds)
    (rest : ∀ board, course.ready board → holds board = true →
      (Spec.sequence name children).Ensures bound board fun status after =>
        course.answers status ∧ course.Path board after) :
    course.Covers bound (Spec.sequence name (guard :: children)) := by
  intro board ready
  rw [Spec.ensures_sequence_cons, guards]
  cases held : holds board with
  | true => exact rest board ready held
  | false => exact ⟨course.failure, .refl⟩

@[simp]
theorem covers_condition (name : String) (holds : β → Bool) :
    course.Covers bound (Spec.condition name holds) := by
  intro board _
  rw [Spec.ensures_condition]
  refine ⟨?_, .refl⟩
  cases holds board with
  | true => exact course.success
  | false => exact course.failure

theorem covers_effect {name : String} {change : β → β}
    (moves : ∀ board, course.ready board →
      course.Path board (change board)) :
    course.Covers bound (Spec.effect name change) := by
  intro board ready
  rw [Spec.ensures_effect]
  exact ⟨course.success, moves board ready⟩

theorem covers_action {name : String} {act : β → Status × β}
    (acts : ∀ board, course.ready board →
      course.answers (act board).1 ∧ course.Path board (act board).2) :
    course.Covers bound (Spec.action name act) := by
  intro board ready
  rw [Spec.ensures_action]
  exact acts board ready

theorem covers_decision {name : String} {weight : Weight}
    (asks : ∀ board, course.ready board →
      course.answers (Blackboard.decide ⟨name, weight⟩ board).1 ∧
        course.move board (Blackboard.decide ⟨name, weight⟩ board).2) :
    course.Covers bound (Spec.decision name weight) := by
  intro board ready
  rw [Spec.ensures_decision]
  exact ⟨(asks board ready).1, .single (asks board ready).2⟩

theorem Covers.forceSuccess {name : String} {child : Spec Unit β}
    (covers : course.Covers bound child) :
    course.Covers bound (Spec.forceSuccess name child) := by
  intro board ready
  rw [Spec.ensures_forceSuccess]
  apply (covers board ready).mono
  rintro status after ⟨_, path⟩
  exact ⟨course.success, path⟩

/-- A parallel node that needs one success is covered when its children are, the
order that is drawn is a move, and so is an undecided end. -/
theorem Covers.parallel_one {name : String} {children : List (Spec Unit β)}
    (nonempty : children ≠ [])
    (draws : ∀ stream board, course.ready board →
      course.move board (Blackboard.setRandom stream board))
    (running : course.answers .running)
    (each : ∀ child ∈ children, course.Covers bound child) :
    course.Covers bound (Spec.parallel name 1 children) := by
  intro start ready
  refine Spec.ensures_parallel_one (course.Path start) nonempty ?_ ?_ ?_ ?_
  · intro stream
    exact .single (draws stream start ready)
  · intro child member before path
    apply ((each child member).after ready path).mono
    rintro status after ⟨_, further⟩
    by_cases succeeded : status = .success
    · rw [if_pos succeeded]
      exact ⟨course.success, further⟩
    · rw [if_neg succeeded]
      exact further
  · intro after path
    exact ⟨course.failure, path⟩
  · intro after path
    exact ⟨running, path⟩

/-! ## What is kept -/

/-- Whoever has a property keeps it. -/
def keeping (property : β → Prop) : Course β where
  ready := property
  move before after := property before → property after
  answers _ := True
  stable holds keeps := keeps holds
  success := trivial
  failure := trivial

/-- To keep to such a course is to keep the property. -/
theorem covers_keeping_iff {property : β → Prop} {tree : Spec Unit β} :
    (keeping property).Covers bound tree ↔
      ∀ board, property board →
        tree.Ensures bound board fun _ after => property after := by
  constructor
  · intro covers board holds
    apply (covers board holds).mono
    rintro _ after ⟨_, path⟩
    exact path.ready holds
  · intro keeps board holds
    apply (keeps board holds).mono
    intro _ after kept
    exact ⟨trivial, .single fun _ => kept⟩

end Course

end Disclosure
