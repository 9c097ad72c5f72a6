import Disclosure.Tree.Build

/-!
# Ticking

A trace holds what the nodes of a tree remember between ticks: the last status,
the count of a loop and the memory of a leaf.  It has the shape of its tree.

Ticking is compositional: the ticker of a node is made of the tickers of its
children, by one combinator for each kind.  Only a loop without a bound of its
own needs one from outside; a tick that would go beyond the bound has no result,
and a larger bound never changes a result.
-/

namespace Disclosure

/-! ## Traces -/

/-- What a node and the nodes below it remember. -/
inductive Trace (μ : Type) where
  | node (status : Option Status) (count : Nat) (memory : Option μ)
      (children : List (Trace μ))

namespace Trace

variable {μ : Type}

/-- The answer to the last tick, if there was one. -/
def status : Trace μ → Option Status
  | node status _ _ _ => status

/-- The count of a loop. -/
def count : Trace μ → Nat
  | node _ count _ _ => count

/-- The memory of a leaf, if it is not the first one any more. -/
def memory : Trace μ → Option μ
  | node _ _ memory _ => memory

/-- The traces of the children. -/
def children : Trace μ → List (Trace μ)
  | node _ _ _ children => children

mutual

/-- The trace and all traces below it, a node before its children. -/
def nodes : Trace μ → List (Trace μ)
  | node status count memory children =>
    node status count memory children :: nodesOfList children

def nodesOfList : List (Trace μ) → List (Trace μ)
  | [] => []
  | trace :: traces => trace.nodes ++ nodesOfList traces

end

mutual

/-- Forget every status, but no count and no memory. -/
def clear : Trace μ → Trace μ
  | node _ count memory children => node none count memory (clearList children)

def clearList : List (Trace μ) → List (Trace μ)
  | [] => []
  | trace :: traces => trace.clear :: clearList traces

end

mutual

/-- The trace of a tree that was never ticked. -/
def blank {ι β : Type} : Tree ι μ β → Trace μ
  | .node _ _ _ children => node none 0 none (blankList children)

def blankList {ι β : Type} : List (Tree ι μ β) → List (Trace μ)
  | [] => []
  | tree :: trees => blank tree :: blankList trees

end

end Trace

/-! ## Tickers -/

/-- Why a tick has no result. -/
inductive TickError where
  /-- A node lacks a child, or the trace is that of another tree. -/
  | malformed
  /-- A loop went on beyond the bound. -/
  | unbounded
  deriving DecidableEq, Repr

/-- A status, with what is remembered and the blackboard after it. -/
structure Step (σ β : Type) where
  status : Status
  state : σ
  board : β

/-- Something to tick: it remembers a `σ` and acts on a `β`. -/
abbrev Ticker (σ β : Type) := σ → β → Except TickError (Step σ β)

namespace Ticker

variable {σ β : Type}

/--
Tick in order as long as the answer is `through`; the answer is the first other
one, or `through` when there is none.
-/
def inOrder (through : Status) :
    List (Ticker σ β) → Ticker (List σ) β
  | [], states, board => .ok ⟨through, states, board⟩
  | _ :: _, [], _ => .error .malformed
  | tick :: ticks, state :: states, board => do
    let first ← tick state board
    if first.status = through then
      let rest ← inOrder through ticks states first.board
      return ⟨rest.status, first.state :: rest.state, rest.board⟩
    else
      return ⟨first.status, first.state :: states, first.board⟩

/--
Tick in the given order until one of the two thresholds is crossed; neither may
be crossed when children are still running.
-/
def inParallel (ticks : List (Ticker σ β)) (minSuccess maxFailures : Nat) :
    (order : List Nat) → (successes failures : Nat) → Ticker (List σ) β
  | [], _, _, states, board => .ok ⟨.running, states, board⟩
  | index :: order, successes, failures, states, board =>
    match ticks[index]?, states[index]? with
    | some tick, some state => do
      let step ← tick state board
      let states := states.set index step.state
      match step.status with
      | .success =>
        if minSuccess ≤ successes + 1 then
          return ⟨.success, states, step.board⟩
        else
          inParallel ticks minSuccess maxFailures order (successes + 1)
            failures states step.board
      | .failure =>
        if maxFailures < failures + 1 then
          return ⟨.failure, states, step.board⟩
        else
          inParallel ticks minSuccess maxFailures order successes
            (failures + 1) states step.board
      | .running =>
        inParallel ticks minSuccess maxFailures order successes failures
          states step.board
    | _, _ => .error .malformed

/-- Tick all in a random order, up to so many successes. -/
def parallel [Blackboard β] (minSuccess : Nat) (ticks : List (Ticker σ β)) :
    Ticker (List σ) β := fun states board =>
  if ticks.length < minSuccess then .error .malformed
  else
    let (order, stream) :=
      (Blackboard.random board).shuffle (List.range ticks.length)
    inParallel ticks minSuccess (ticks.length - minSuccess) order 0 0 states
      (Blackboard.setRandom stream board)

/-- Tick up to so many times as long as the answer is `through`, counting. -/
def repeatWhile (through : Status) (tick : Ticker σ β) :
    (times : Nat) → Ticker (σ × Nat) β
  | 0, state, board => .ok ⟨through, state, board⟩
  | times + 1, (state, count), board => do
    let step ← tick state board
    if step.status = through then
      repeatWhile through tick times (step.state, count + 1) step.board
    else
      return ⟨step.status, (step.state, count + 1), step.board⟩

/-- Tick until the answer is failure or running, counting. -/
def untilFailure (tick : Ticker σ β) : (bound : Nat) → Ticker (σ × Nat) β
  | 0, _, _ => .error .unbounded
  | bound + 1, (state, count), board => do
    let step ← tick state board
    match step.status with
    | .success => untilFailure tick bound (step.state, count + 1) step.board
    | .failure => return ⟨.success, (step.state, count + 1), step.board⟩
    | .running => return ⟨.running, (step.state, count + 1), step.board⟩

/-- Tick once and transform the answer. -/
def mapStatus (change : Status → Status) (tick : Ticker σ β) :
    Ticker (σ × Nat) β := fun (state, count) board => do
  let step ← tick state board
  return ⟨change step.status, (step.state, count), step.board⟩

end Ticker

namespace Decorator

variable {σ β : Type}

/-- The ticker of a decorator over that of its child, with the loop count. -/
def ticker (bound : Nat) (tick : Ticker σ β) :
    Decorator → Ticker (σ × Nat) β
  | invert => tick.mapStatus Status.invert
  | forceSuccess => tick.mapStatus fun _ => .success
  | forceFailure => tick.mapStatus fun _ => .failure
  | forceRunning => tick.mapStatus fun _ => .running
  | runningIsSuccess => tick.mapStatus fun status =>
    if status = .failure then .failure else .success
  | runningIsFailure => tick.mapStatus fun status =>
    if status = .success then .success else .failure
  | retry times _ => tick.repeatWhile .failure times
  | repeated times _ => tick.repeatWhile .success times
  | untilFailure _ => tick.untilFailure bound

end Decorator

namespace Kind

variable {μ β : Type}

/-- The ticker of a node of this kind over those of its children. -/
def ticker [Blackboard β] (bound : Nat) (ticks : List (Ticker (Trace μ) β)) :
    Kind μ β → Ticker (Trace μ) β
  | sequence, .node _ count memory traces, board => do
    let step ← Ticker.inOrder .success ticks traces board
    return ⟨step.status, .node step.status count memory step.state, step.board⟩
  | fallback, .node _ count memory traces, board => do
    let step ← Ticker.inOrder .failure ticks traces board
    return ⟨step.status, .node step.status count memory step.state, step.board⟩
  | parallel minSuccess, .node _ count memory traces, board => do
    let step ← Ticker.parallel minSuccess ticks traces board
    return ⟨step.status, .node step.status count memory step.state, step.board⟩
  | decorator transform, .node _ count memory (trace :: traces), board =>
    match ticks with
    | [] => .error .malformed
    | tick :: _ => do
      let count := if transform.resets then 0 else count
      let step ← transform.ticker bound tick (trace, count) board
      return ⟨step.status,
        .node step.status step.state.2 memory (step.state.1 :: traces),
        step.board⟩
  | decorator _, .node _ _ _ [], _ => .error .malformed
  | leaf behavior, .node _ count memory traces, board =>
    let (status, memory, board) :=
      behavior.act (memory.getD behavior.memory) board
    .ok ⟨status, .node (some status) count (some memory) traces, board⟩

/-- Set a node up: leaves do what they do before the first tick. -/
def setup (memory : Option μ) (board : β) : Kind μ β → Option μ × β
  | leaf behavior =>
    let (memory, board) :=
      behavior.setup (memory.getD behavior.memory) board
    (some memory, board)
  | _ => (memory, board)

end Kind

namespace Tree

variable {ι μ β : Type}

mutual

/--
Tick a tree: a status, the new trace and the new blackboard.  No loop ticks its
child more than `bound` times.
-/
def tick [Blackboard β] (bound : Nat) : Tree ι μ β → Ticker (Trace μ) β
  | .node _ _ kind children => kind.ticker bound (tickers bound children)

def tickers [Blackboard β] (bound : Nat) :
    List (Tree ι μ β) → List (Ticker (Trace μ) β)
  | [] => []
  | tree :: trees => tree.tick bound :: tickers bound trees

end

@[simp]
theorem tickers_eq_map [Blackboard β] (bound : Nat)
    (trees : List (Tree ι μ β)) :
    tickers bound trees = trees.map (tick bound) := by
  induction trees with
  | nil => rfl
  | cons tree trees ih => rw [tickers, List.map_cons, ih]

mutual

/-- Run the setup of every leaf, from left to right. -/
def setup : Tree ι μ β → Trace μ → β → Trace μ × β
  | .node _ _ kind children, .node status count memory traces, board =>
    let (memory, board) := kind.setup memory board
    let (traces, board) := setupList children traces board
    (.node status count memory traces, board)

def setupList : List (Tree ι μ β) → List (Trace μ) → β → List (Trace μ) × β
  | tree :: trees, trace :: traces, board =>
    let (trace, board) := setup tree trace board
    let (traces, board) := setupList trees traces board
    (trace :: traces, board)
  | _, traces, board => (traces, board)

end

end Tree

end Disclosure
