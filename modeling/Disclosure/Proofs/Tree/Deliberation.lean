import Disclosure.Proofs.Tree.Course

/-!
# Trees that deliberate and then act once

Most parts of a protocol look around, have some decisions settled and then, if
all goes well, do one thing.  Such a tree either changes nothing that matters,
whatever its answer is, or it succeeds and the last thing that has happened is
one act.  What it has found out on the way still holds when it acts, because
deliberating does not change it.
-/

namespace Disclosure

/-- A status that shows no pending decision, unless pending ones are allowed. -/
def Status.Settled (pending : Bool) (status : Status) : Prop :=
  status = .running → pending = true

theorem Status.settled_success {pending : Bool} :
    Status.success.Settled pending := by
  intro running
  cases running

theorem Status.settled_failure {pending : Bool} :
    Status.failure.Settled pending := by
  intro running
  cases running

/-- The policy leaves no decision pending, unless that is allowed. -/
def Policy.Settles (pending : Bool) (policy : Policy) : Prop :=
  ∀ number decision stream,
    (policy.settle number decision stream).1.Settled pending

theorem Policy.settles_anyhow (policy : Policy) : policy.Settles true :=
  fun _ _ _ _ => rfl

/-- Every decision is settled by its name alone, and no chance is drawn on. -/
def Policy.byName (outcome : String → Status) : Policy where
  settle _ decision stream := (outcome decision.name, stream)

/-- Yes to everything. -/
def Policy.agreeable : Policy := .byName fun _ => .success

/-- Yes to some decisions and no to all others. -/
def Policy.nodding (agreed : List String) : Policy :=
  .byName fun name => if name ∈ agreed then .success else .failure

/--
Thoughts on a blackboard, what is known through all of them, acts, and the
answers that may be given.  Facts that are steady are not changed by thinking.
-/
structure Deliberation (β : Type) [Blackboard β] where
  known : β → Prop
  muses : β → β → Prop
  acts : β → β → Prop
  answers : Status → Prop
  Steady : (β → Bool) → Prop
  stable : ∀ {before after}, known before → muses before after → known after
  keeps : ∀ {fact}, Steady fact → ∀ {before after}, muses before after →
    fact after = fact before
  asks : ∀ decision board, muses board (Blackboard.decide decision board).2
  settles : ∀ decision board, known board →
    answers (Blackboard.decide decision board).1
  success : answers .success
  failure : answers .failure

namespace Deliberation

variable {β : Type} [Blackboard β] {bound : Nat}

/-- Any number of thoughts. -/
abbrev Ponders (deliberation : Deliberation β) : β → β → Prop :=
  Relation.ReflTransGen deliberation.muses

/-- Nothing was done, or one thing was done at last, with success. -/
def Ends (deliberation : Deliberation β) (board : β) (status : Status)
    (after : β) : Prop :=
  deliberation.answers status ∧
    (deliberation.Ponders board after ∨
      status = .success ∧ ∃ middle, deliberation.Ponders board middle ∧
        deliberation.acts middle after)

/-- The tree deliberates, and then acts once or not at all. -/
def Covers (deliberation : Deliberation β) (bound : Nat)
    (tree : Spec Unit β) : Prop :=
  ∀ board, deliberation.known board →
    tree.Ensures bound board (deliberation.Ends board)

/-- The same deliberation when the answer to a question is known as well. -/
def given (deliberation : Deliberation β) {fact : β → Bool}
    (steady : deliberation.Steady fact) (answer : Bool) : Deliberation β where
  known board := deliberation.known board ∧ fact board = answer
  muses := deliberation.muses
  acts := deliberation.acts
  answers := deliberation.answers
  Steady := deliberation.Steady
  stable knows muses :=
    ⟨deliberation.stable knows.1 muses,
      (deliberation.keeps steady muses).trans knows.2⟩
  keeps := deliberation.keeps
  asks := deliberation.asks
  settles decision board knows := deliberation.settles decision board knows.1
  success := deliberation.success
  failure := deliberation.failure

/-- The same deliberation without an act. -/
def idle (deliberation : Deliberation β) : Deliberation β where
  known := deliberation.known
  muses := deliberation.muses
  acts _ _ := False
  answers := deliberation.answers
  Steady := deliberation.Steady
  stable := deliberation.stable
  keeps := deliberation.keeps
  asks := deliberation.asks
  settles := deliberation.settles
  success := deliberation.success
  failure := deliberation.failure

variable {deliberation : Deliberation β}

theorem Ends.ponders {board after : β} {status : Status}
    (ends : deliberation.idle.Ends board status after) :
    deliberation.Ponders board after := by
  rcases ends with ⟨_, ponders | ⟨_, middle, _, impossible⟩⟩
  · exact ponders
  · exact impossible.elim

/-- Any thoughts and any answer make an end. -/
theorem ends_of_ponders {board after : β} {status : Status}
    (answer : deliberation.answers status)
    (ponders : deliberation.Ponders board after) :
    deliberation.Ends board status after :=
  ⟨answer, .inl ponders⟩

/-- So does one act with success. -/
theorem ends_of_acts {board after : β}
    (acts : deliberation.acts board after) :
    deliberation.Ends board .success after :=
  ⟨deliberation.success, .inr ⟨rfl, board, .refl, acts⟩⟩

theorem Ponders.known {before after : β}
    (ponders : deliberation.Ponders before after)
    (known : deliberation.known before) :
    deliberation.known after := by
  induction ponders with
  | refl => exact known
  | tail _ muses ih => exact deliberation.stable ih muses

theorem Ends.after {start board after : β} {status : Status}
    (ends : deliberation.Ends board status after)
    (ponders : deliberation.Ponders start board) :
    deliberation.Ends start status after := by
  rcases ends with ⟨answer, further | ⟨succeeded, middle, further, acts⟩⟩
  · exact ⟨answer, .inl (ponders.trans further)⟩
  · exact ⟨answer, .inr ⟨succeeded, middle, ponders.trans further, acts⟩⟩

/-- What is covered is covered as well when more is known. -/
theorem Covers.given {tree : Spec Unit β}
    (covers : deliberation.Covers bound tree)
    {fact : β → Bool}
    (steady : deliberation.Steady fact)
    (answer : Bool) :
    (deliberation.given steady answer).Covers bound tree :=
  fun board known => covers board known.1

/-! ## Questions and decisions -/

theorem covers_question {question : Spec Unit β} {holds : β → Bool}
    (finds : question.Finds bound holds) :
    deliberation.Covers bound question := by
  intro board _
  rw [finds]
  refine ends_of_ponders ?_ .refl
  cases holds board with
  | true => exact deliberation.success
  | false => exact deliberation.failure

theorem covers_decision (name : String) (weight : Weight) :
    deliberation.Covers bound (Spec.decision name weight) := by
  intro board known
  rw [Spec.ensures_decision]
  exact ends_of_ponders (deliberation.settles _ board known)
    (.single (deliberation.asks _ board))

/-! ## In a sequence -/

theorem covers_sequence_nil (name : String) :
    deliberation.Covers bound (Spec.sequence name ([] : List (Spec Unit β))) := by
  intro board _
  rw [Spec.ensures_sequence_nil]
  exact ends_of_ponders deliberation.success .refl

/-- A decision comes first. -/
theorem Covers.decide {name asked : String} {weight : Weight}
    {rest : List (Spec Unit β)}
    (covers : deliberation.Covers bound (Spec.sequence name rest)) :
    deliberation.Covers bound
      (Spec.sequence name (Spec.decision asked weight :: rest)) := by
  intro board known
  rw [Spec.ensures_sequence_cons, Spec.ensures_decision]
  have muses := deliberation.asks ⟨asked, weight⟩ board
  split
  · apply (covers _ (deliberation.stable known muses)).mono
    intro status after ends
    exact ends.after (.single muses)
  · exact ends_of_ponders (deliberation.settles _ board known) (.single muses)

/-- A tree that only deliberates comes first. -/
theorem Covers.think {name : String} {thought : Spec Unit β}
    {rest : List (Spec Unit β)}
    (thinks : deliberation.idle.Covers bound thought)
    (covers : deliberation.Covers bound (Spec.sequence name rest)) :
    deliberation.Covers bound (Spec.sequence name (thought :: rest)) := by
  intro board known
  rw [Spec.ensures_sequence_cons]
  apply (thinks board known).mono
  intro status after ends
  have ponders : deliberation.Ponders board after := ends.ponders
  split
  · apply (covers after (ponders.known known)).mono
    intro answer last ends
    exact ends.after ponders
  · exact ends_of_ponders ends.1 ponders

/-- The act may be left to the last part. -/
theorem Covers.last {name : String} {child : Spec Unit β}
    (covers : deliberation.Covers bound child) :
    deliberation.Covers bound (Spec.sequence name [child]) := by
  intro board known
  rw [Spec.ensures_sequence_cons]
  apply (covers board known).mono
  intro status after ends
  by_cases succeeded : status = .success
  · rw [if_pos succeeded, Spec.ensures_sequence_nil, ← succeeded]
    exact ends
  · rw [if_neg succeeded]
    exact ends

/-- What a question has found out is known to the rest. -/
theorem Covers.guard {name : String} {question : Spec Unit β}
    {rest : List (Spec Unit β)} {holds : β → Bool}
    (finds : question.Finds bound holds)
    (steady : deliberation.Steady holds)
    (covers : (deliberation.given steady true).Covers bound
      (Spec.sequence name rest)) :
    deliberation.Covers bound (Spec.sequence name (question :: rest)) := by
  intro board known
  rw [Spec.ensures_sequence_cons, finds]
  cases held : holds board with
  | true => exact covers board ⟨known, held⟩
  | false => exact ends_of_ponders deliberation.failure .refl

/-- Thinking that, when it succeeds, has found that a fact holds. -/
def Learns (deliberation : Deliberation β) (bound : Nat)
    (thought : Spec Unit β) (fact : β → Bool) : Prop :=
  ∀ board, deliberation.known board →
    thought.Ensures bound board fun status after =>
      deliberation.idle.Ends board status after ∧
        (status = .success → fact after = true)

theorem learns_question {question : Spec Unit β} {fact : β → Bool}
    (finds : question.Finds bound fact) :
    deliberation.Learns bound question fact := by
  intro board known
  rw [finds]
  refine ⟨ends_of_ponders ?_ .refl, ?_⟩
  · cases fact board with
    | true => exact deliberation.success
    | false => exact deliberation.failure
  · cases held : fact board with
    | true => exact fun _ => rfl
    | false => nofun

theorem Learns.weaken {thought : Spec Unit β} {fact weaker : β → Bool}
    (learns : deliberation.Learns bound thought fact)
    (weaken : ∀ board, fact board = true → weaker board = true) :
    deliberation.Learns bound thought weaker := by
  intro board known
  apply (learns board known).mono
  rintro status after ⟨ends, found⟩
  exact ⟨ends, fun succeeded => weaken after (found succeeded)⟩

/-- What the first part has found out still holds after the other ones. -/
theorem Learns.andThink {name : String} {thought : Spec Unit β}
    {rest : List (Spec Unit β)} {fact : β → Bool}
    (learns : deliberation.Learns bound thought fact)
    (steady : deliberation.Steady fact)
    (thinks : deliberation.idle.Covers bound (Spec.sequence name rest)) :
    deliberation.Learns bound (Spec.sequence name (thought :: rest)) fact := by
  intro board known
  rw [Spec.ensures_sequence_cons]
  apply (learns board known).mono
  rintro status middle ⟨ends, found⟩
  by_cases succeeded : status = .success
  · rw [if_pos succeeded]
    have knownStill := Ponders.known ends.ponders known
    apply (thinks middle knownStill).mono
    intro answer after further
    have kept : fact after = fact middle := by
      have ponders : deliberation.Ponders middle after := further.ponders
      clear further
      induction ponders with
      | refl => rfl
      | tail _ muses ih => exact (deliberation.keeps steady muses).trans ih
    exact ⟨further.after ends.ponders, fun _ => kept.trans (found succeeded)⟩
  · rw [if_neg succeeded]
    exact ⟨ends, fun impossible => (succeeded impossible).elim⟩

/-- The alternatives may find the same fact in different ways. -/
theorem Learns.orElse {name : String} {thought : Spec Unit β}
    {rest : List (Spec Unit β)} {fact : β → Bool}
    (first : deliberation.Learns bound thought fact)
    (second : deliberation.Learns bound (Spec.fallback name rest) fact) :
    deliberation.Learns bound (Spec.fallback name (thought :: rest)) fact := by
  intro board known
  rw [Spec.ensures_fallback_cons]
  apply (first board known).mono
  rintro status middle ⟨ends, found⟩
  by_cases failed : status = .failure
  · rw [if_pos failed]
    apply (second middle (Ponders.known ends.ponders known)).mono
    rintro answer after ⟨further, foundThen⟩
    exact ⟨further.after ends.ponders, foundThen⟩
  · rw [if_neg failed]
    exact ⟨ends, found⟩

theorem learns_fallback_nil (name : String) (fact : β → Bool) :
    deliberation.Learns bound
      (Spec.fallback name ([] : List (Spec Unit β))) fact := by
  intro board _
  rw [Spec.ensures_fallback_nil]
  exact ⟨ends_of_ponders deliberation.failure .refl, nofun⟩

/-- What was learned is known to the rest. -/
theorem Covers.learn {name : String} {thought : Spec Unit β}
    {rest : List (Spec Unit β)} {fact : β → Bool}
    (learns : deliberation.Learns bound thought fact)
    (steady : deliberation.Steady fact)
    (covers : (deliberation.given steady true).Covers bound
      (Spec.sequence name rest)) :
    deliberation.Covers bound (Spec.sequence name (thought :: rest)) := by
  intro board known
  rw [Spec.ensures_sequence_cons]
  apply (learns board known).mono
  rintro status middle ⟨ends, found⟩
  by_cases succeeded : status = .success
  · rw [if_pos succeeded]
    have knownStill := Ponders.known ends.ponders known
    apply (covers middle ⟨knownStill, found succeeded⟩).mono
    intro answer after further
    exact further.after ends.ponders
  · rw [if_neg succeeded]
    exact ends_of_ponders ends.1 ends.ponders

/-! ## Acting -/

theorem covers_effect {name : String} {change : β → β}
    (acts : ∀ before, deliberation.known before →
      deliberation.acts before (change before)) :
    deliberation.Covers bound (Spec.effect name change) := by
  intro board known
  rw [Spec.ensures_effect]
  exact ends_of_acts (acts board known)

/-! ## In a fallback -/

theorem covers_fallback_nil (name : String) :
    deliberation.Covers bound (Spec.fallback name ([] : List (Spec Unit β))) := by
  intro board _
  rw [Spec.ensures_fallback_nil]
  exact ends_of_ponders deliberation.failure .refl

/-- An alternative that has failed has done nothing. -/
theorem Covers.orElse {name : String} {child : Spec Unit β}
    {rest : List (Spec Unit β)}
    (first : deliberation.Covers bound child)
    (second : deliberation.Covers bound (Spec.fallback name rest)) :
    deliberation.Covers bound (Spec.fallback name (child :: rest)) := by
  intro board known
  rw [Spec.ensures_fallback_cons]
  apply (first board known).mono
  intro status after ends
  by_cases failed : status = .failure
  · rw [if_pos failed]
    rcases ends with ⟨_, ponders | ⟨succeeded, _⟩⟩
    · apply (second after (ponders.known known)).mono
      intro answer last ends
      exact ends.after ponders
    · rw [failed] at succeeded
      cases succeeded
  · rw [if_neg failed]
    exact ends

/-- That a question was denied is known to the other alternatives. -/
theorem Covers.unless {name : String} {question : Spec Unit β}
    {rest : List (Spec Unit β)} {holds : β → Bool}
    (finds : question.Finds bound holds)
    (steady : deliberation.Steady holds)
    (covers : (deliberation.given steady false).Covers bound
      (Spec.fallback name rest)) :
    deliberation.Covers bound (Spec.fallback name (question :: rest)) := by
  intro board known
  rw [Spec.ensures_fallback_cons, finds]
  cases held : holds board with
  | true => exact ends_of_ponders deliberation.success .refl
  | false => exact covers board ⟨known, held⟩

/-- Turning an answer around does nothing more. -/
theorem Covers.invert {name : String} {thought : Spec Unit β}
    (thinks : deliberation.idle.Covers bound thought) :
    deliberation.idle.Covers bound (Spec.invert name thought) := by
  intro board known
  rw [Spec.ensures_invert]
  apply (thinks board known).mono
  intro status after ends
  refine ends_of_ponders ?_ ends.ponders
  cases status with
  | success => exact deliberation.failure
  | failure => exact deliberation.success
  | running => exact ends.1

/-! ## In random order -/

/-- When one success is enough, nothing comes after the act. -/
theorem Covers.parallel_one {name : String} {children : List (Spec Unit β)}
    (nonempty : children ≠ [])
    (draws : ∀ stream board, deliberation.muses board
      (Blackboard.setRandom stream board))
    (running : deliberation.answers .running)
    (each : ∀ child ∈ children, deliberation.Covers bound child) :
    deliberation.Covers bound (Spec.parallel name 1 children) := by
  intro start known
  refine Spec.ensures_parallel_one (deliberation.Ponders start) nonempty
    ?_ ?_ ?_ ?_
  · intro stream
    exact .single (draws stream start)
  · intro child member before ponders
    apply (each child member before (ponders.known known)).mono
    intro status after ends
    by_cases succeeded : status = .success
    · rw [if_pos succeeded, ← succeeded]
      exact ends.after ponders
    · rw [if_neg succeeded]
      rcases ends with ⟨_, further | ⟨impossible, _⟩⟩
      · exact ponders.trans further
      · exact (succeeded impossible).elim
  · intro after ponders
    exact ends_of_ponders deliberation.failure ponders
  · intro after ponders
    exact ends_of_ponders running ponders

/-! ## As part of a course -/

/-- Deliberating and acting is a way to keep to a course. -/
theorem Covers.onCourse {course : Course β} {tree : Spec Unit β}
    (covers : deliberation.Covers bound tree)
    (known : ∀ board, course.ready board → deliberation.known board)
    (muses : ∀ before after, deliberation.muses before after →
      course.move before after)
    (acts : ∀ before after, deliberation.known before →
      deliberation.acts before after → course.move before after)
    (answers : ∀ status, deliberation.answers status →
      course.answers status) :
    course.Covers bound tree := by
  intro board ready
  apply (covers board (known board ready)).mono
  rintro status after ⟨answer, ponders | ⟨_, middle, ponders, done⟩⟩
  · exact ⟨answers status answer,
      Relation.ReflTransGen.mono muses _ _ ponders⟩
  · have knownThen := ponders.known (known board ready)
    have path := Relation.ReflTransGen.mono muses _ _ ponders
    exact ⟨answers status answer,
      path.tail (acts middle after knownThen done)⟩

end Deliberation

end Disclosure
