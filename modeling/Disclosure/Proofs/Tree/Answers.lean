import Disclosure.Proofs.Random.Draw
import Disclosure.Tree.Live

/-!
# What a node makes of the answers of its children

In one tick a node ticks some of its children, one after the other and some of them
perhaps several times.  Whatever its kind, what it answers is settled by what they
answered.  Most nodes answer that they are running only if the last child that they
ticked did; a parallel node does so only if it has ticked all of them and neither
threshold was crossed.
-/

namespace Disclosure

variable {σ μ β : Type}

/-- What has a result in two parts has one in the first. -/
theorem TickError.exists_of_bind {σ τ : Type} {ran : Except TickError σ}
    {next : σ → Except TickError τ} {result : τ}
    (ends : (ran >>= next) = .ok result) :
    ∃ middle, ran = .ok middle ∧ next middle = .ok result := by
  cases ran with
  | error found => cases ends
  | ok middle => exact ⟨middle, rfl, ends⟩

/-! ## Moves in a row -/

/-- One move after the other, with the answers that they gave. -/
inductive Passes (move : β → Status → β → Prop) :
    β → List Status → β → Prop where
  | none {board : β} : Passes move board [] board
  | next {before middle after : β} {status : Status} {answers : List Status}
      (first : move before status middle)
      (rest : Passes move middle answers after) :
    Passes move before (status :: answers) after

/-- The answer comes of some moves, and who is running was left running by the last
of them. -/
def Relays (move : β → Status → β → Prop) (before : β) (answer : Status)
    (after : β) : Prop :=
  ∃ answers, Passes move before answers after ∧
    (answer = .running → answers.getLast? = some .running)

namespace Relays

variable {move : β → Status → β → Prop} {before middle after : β}
  {status answer : Status}

theorem none (settled : answer ≠ .running) : Relays move after answer after :=
  ⟨[], .none, fun running => (settled running).elim⟩

theorem once (first : move before status after)
    (keeps : answer = .running → status = .running) :
    Relays move before answer after :=
  ⟨[status], .next first .none, fun running => congrArg some (keeps running)⟩

theorem later (first : move before status middle)
    (rest : Relays move middle answer after) :
    Relays move before answer after := by
  rcases rest with ⟨answers, passes, relayed⟩
  refine ⟨status :: answers, .next first passes, fun running => ?_⟩
  rw [List.getLast?_cons, relayed running]
  rfl

end Relays

namespace Status

/-- Each answer is one of three. -/
theorem count_add_count (answers : List Status) :
    answers.count .success + answers.count .failure + answers.count .running =
      answers.length := by
  induction answers with
  | nil => rfl
  | cons answer answers ih =>
    cases answer <;> simp [← ih] <;> omega

/-- The threshold that the answer stands for is crossed; neither is when the answer
is that it is running, although all have answered. -/
def Decides (minSuccess maxFailures children : Nat) (answers : List Status) :
    Status → Prop
  | success => minSuccess ≤ answers.count success
  | failure => maxFailures < answers.count failure
  | running => answers.length = children ∧
    answers.count success < minSuccess ∧ answers.count failure ≤ maxFailures

/-- Successes below one threshold and failures up to the other are not all that so
many children can answer. -/
theorem Decides.running_mem {minSuccess children : Nat} {answers : List Status}
    (decides : Decides minSuccess (children - minSuccess) children answers .running)
    (within : minSuccess ≤ children) :
    running ∈ answers := by
  rcases decides with ⟨all, fewSuccesses, fewFailures⟩
  have total := count_add_count answers
  exact List.count_pos_iff.mp (by omega)

end Status

/-! ## Tickers -/

/-- Whatever a tick starts from, what it comes to is such a move. -/
def Ticker.Makes (move : β → Status → β → Prop) (tick : Ticker σ β) : Prop :=
  ∀ state board step, tick state board = .ok step →
    move board step.status step.board

namespace Ticker.Makes

open TickError

variable {move : β → Status → β → Prop}

section Loops

variable {tick : Ticker σ β}

theorem mapStatus (makes : tick.Makes move) (change : Status → Status) :
    (tick.mapStatus change).Makes fun before answer after =>
      ∃ status, move before status after ∧ answer = change status := by
  intro state board step ends
  rcases exists_of_bind ends with ⟨first, ticked, same⟩
  cases same
  exact ⟨first.status, makes _ _ _ ticked, rfl⟩

theorem repeatWhile (makes : tick.Makes move) {through : Status}
    (settled : through ≠ .running) (times : Nat) :
    (tick.repeatWhile through times).Makes (Relays move) := by
  induction times with
  | zero =>
    intro state board step ends
    cases ends
    exact .none settled
  | succ times ih =>
    intro state board step ends
    rcases exists_of_bind ends with ⟨first, ticked, goes⟩
    have begins := makes _ _ _ ticked
    split at goes
    next => exact .later begins (ih _ _ _ goes)
    next =>
      cases goes
      exact .once begins id

theorem untilFailure (makes : tick.Makes move) (bound : Nat) :
    (tick.untilFailure bound).Makes (Relays move) := by
  induction bound with
  | zero =>
    intro state board step ends
    cases ends
  | succ bound ih =>
    intro state board step ends
    rcases exists_of_bind ends with ⟨first, ticked, goes⟩
    have begins := makes _ _ _ ticked
    split at goes
    next => exact .later begins (ih _ _ _ goes)
    next =>
      cases goes
      exact .once begins nofun
    next answered =>
      cases goes
      exact .once begins fun _ => answered

/-- Only one decorator makes up an answer that is not settled. -/
theorem decorator (makes : tick.Makes move) (bound : Nat) {transform : Decorator}
    (honest : transform ≠ .forceRunning) :
    (transform.ticker bound tick).Makes (Relays move) := by
  have mapped {change : Status → Status}
      (keeps : ∀ status, change status = .running → status = .running) :
      (tick.mapStatus change).Makes (Relays move) := by
    intro state board step ends
    rcases makes.mapStatus change _ _ _ ends with ⟨status, moved, answered⟩
    exact .once moved fun running => keeps status (answered ▸ running)
  cases transform with
  | invert =>
    rw [Decorator.ticker]
    exact mapped fun status running => by cases status <;> simp_all [Status.invert]
  | forceSuccess | forceFailure =>
    rw [Decorator.ticker]
    exact mapped fun status running => by cases running
  | forceRunning => exact (honest rfl).elim
  | runningIsSuccess | runningIsFailure =>
    rw [Decorator.ticker]
    exact mapped fun status running => by cases status <;> simp at running
  | retry times reset => exact makes.repeatWhile (by decide) times
  | repeated times reset => exact makes.repeatWhile (by decide) times
  | untilFailure reset => exact makes.untilFailure bound

end Loops

/-! ### Several children -/

section Children

variable {ticks : List (Ticker σ β)}

theorem inOrder (each : ∀ tick ∈ ticks, tick.Makes move) {through : Status}
    (settled : through ≠ .running) :
    (Ticker.inOrder through ticks).Makes (Relays move) := by
  induction ticks with
  | nil =>
    intro states board step ends
    cases ends
    exact .none settled
  | cons tick ticks ih =>
    intro states board step ends
    cases states with
    | nil => cases ends
    | cons state states =>
      rcases exists_of_bind ends with ⟨first, ticked, goes⟩
      have begins := each tick (by simp) _ _ _ ticked
      split at goes
      next =>
        rcases exists_of_bind goes with ⟨later, tickedOn, same⟩
        cases same
        have rest := ih fun other member => each other (by simp [member])
        exact .later begins (rest states _ later tickedOn)
      next =>
        cases goes
        exact .once begins id

/-- The counts are those of the answers so far. -/
theorem inParallel (each : ∀ tick ∈ ticks, tick.Makes move)
    {minSuccess maxFailures : Nat} (order : List Nat) (earlier : List Status) :
    (Ticker.inParallel ticks minSuccess maxFailures order
      (earlier.count .success) (earlier.count .failure)).Makes
      fun before answer after => ∃ answers, Passes move before answers after ∧
        (earlier.count .success < minSuccess →
          earlier.count .failure ≤ maxFailures →
          answer.Decides minSuccess maxFailures
            (earlier.length + order.length) (earlier ++ answers)) := by
  -- the answer of the child that comes next moves over to the earlier ones
  induction order generalizing earlier with
  | nil =>
    intro states board step ends
    cases ends
    refine ⟨[], .none, fun notEnough notTooMany => ?_⟩
    rw [List.append_nil]
    exact ⟨rfl, notEnough, notTooMany⟩
  | cons index order ih =>
    intro states board step ends
    simp only [Ticker.inParallel] at ends
    split at ends
    next tick state found here =>
      rcases exists_of_bind ends with ⟨first, ticked, goes⟩
      have begins := each tick (List.mem_of_getElem? found) _ _ _ ticked
      have grown : (earlier ++ [first.status]).length + order.length =
          earlier.length + (index :: order).length := by
        rw [List.length_append, List.length_cons]
        exact Nat.succ_add_eq_add_succ ..
      have goesOn := ih (earlier ++ [first.status])
      simp only [grown, List.append_assoc, List.singleton_append,
        List.count_append] at goesOn
      generalize first.status = status at begins goes goesOn
      cases status with
      | success =>
        simp only at goes
        split at goes
        next enough =>
          cases goes
          refine ⟨_, .next begins .none, fun _ _ => ?_⟩
          rw [Status.Decides, List.count_append]
          exact enough
        next below =>
          rcases goesOn _ _ _ goes with ⟨answers, passes, decides⟩
          exact ⟨_, .next begins passes, fun _ => decides (Nat.not_le.mp below)⟩
      | failure =>
        simp only at goes
        split at goes
        next tooMany =>
          cases goes
          refine ⟨_, .next begins .none, fun _ _ => ?_⟩
          rw [Status.Decides, List.count_append]
          exact tooMany
        next within =>
          rcases goesOn _ _ _ goes with ⟨answers, passes, decides⟩
          exact ⟨_, .next begins passes,
            fun notEnough _ => decides notEnough (Nat.not_lt.mp within)⟩
      | running =>
        rcases goesOn _ _ _ goes with ⟨answers, passes, decides⟩
        exact ⟨_, .next begins passes, decides⟩
    next => cases ends

/-- Some of so many are ticked in an order that is drawn first, and a threshold that
they can reach at all is crossed or not. -/
theorem parallel [Blackboard β] (each : ∀ tick ∈ ticks, tick.Makes move)
    (minSuccess : Nat) :
    (Ticker.parallel minSuccess ticks).Makes fun before answer after =>
      minSuccess ≤ ticks.length ∧ ∃ stream answers,
        Passes move (Blackboard.setRandom stream before) answers after ∧
          (0 < minSuccess → answer.Decides minSuccess
            (ticks.length - minSuccess) ticks.length answers) := by
  intro states board step ends
  rw [Ticker.parallel] at ends
  split at ends
  next => cases ends
  next within =>
    have places := (RandomStream.shuffle_perm (Blackboard.random board)
      (List.range ticks.length)).length_eq
    rw [List.length_range] at places
    generalize (Blackboard.random board).shuffle (List.range ticks.length) =
      drawn at ends places
    rcases drawn with ⟨order, stream⟩
    rcases inParallel each order [] _ _ _ ends with ⟨answers, passes, decides⟩
    refine ⟨Nat.not_lt.mp within, stream, answers, passes, fun positive => ?_⟩
    have decided := decides positive (Nat.zero_le _)
    rw [places, List.length_nil, Nat.zero_add] at decided
    exact decided

end Children

end Ticker.Makes

/-! ## Nodes -/

/-- What a node of this kind with so many children can come to when each tick of a
child makes such a move. -/
def Kind.Concludes [Blackboard β] (move : β → Status → β → Prop)
    (children : Nat) (before : β) (answer : Status) (after : β) :
    Kind μ β → Prop
  | sequence => Relays move before answer after
  | fallback => Relays move before answer after
  | parallel minSuccess => minSuccess ≤ children ∧ ∃ stream answers,
    Passes move (Blackboard.setRandom stream before) answers after ∧
      (0 < minSuccess → answer.Decides minSuccess (children - minSuccess) children
        answers)
  | decorator transform =>
    if transform = .forceRunning then ∃ status, move before status after
    else Relays move before answer after
  | leaf behavior => ∃ memory, (behavior.act memory before).1 = answer ∧
    (behavior.act memory before).2.2 = after

theorem Ticker.Makes.node [Blackboard β] {move : β → Status → β → Prop}
    {ticks : List (Ticker (Trace μ) β)}
    (each : ∀ tick ∈ ticks, tick.Makes move) (bound : Nat) (kind : Kind μ β) :
    (kind.ticker bound ticks).Makes fun before answer after =>
      kind.Concludes move ticks.length before answer after := by
  rintro ⟨status, count, memory, traces⟩ board step ends
  cases kind with
  | sequence | fallback =>
    rcases TickError.exists_of_bind ends with ⟨first, ticked, same⟩
    cases same
    exact inOrder each (by decide) _ _ _ ticked
  | parallel minSuccess =>
    rcases TickError.exists_of_bind ends with ⟨first, ticked, same⟩
    cases same
    exact parallel each minSuccess _ _ _ ticked
  | decorator transform =>
    cases traces with
    | nil => cases ends
    | cons trace traces =>
      cases ticks with
      | nil => cases ends
      | cons tick ticks =>
        have child := each tick (by simp)
        rcases TickError.exists_of_bind ends with ⟨first, ticked, same⟩
        cases same
        rw [Kind.Concludes]
        split
        next made =>
          rw [made, Decorator.ticker] at ticked
          rcases child.mapStatus _ _ _ _ ticked with ⟨status, moved, _⟩
          exact ⟨status, moved⟩
        next honest => exact child.decorator bound honest _ _ _ ticked
  | leaf behavior =>
    cases ends
    exact ⟨_, rfl, rfl⟩

end Disclosure
