import Disclosure.Tree.Live
import Mathlib.Data.List.Forall2

/-!
# Trees without memory

A tree whose leaves remember nothing is a function of the blackboard.  Its
trace is still written at every tick, but what is written there never decides
anything: `tick_follows_run` says that from any trace of the right shape a tick
gives what `run`, which knows no trace, gives on the same blackboard, and
leaves a trace of the right shape.  Statements about a behavior can therefore
be made about `run`, and they hold at the first tick as well as at any later
one.
-/

namespace Disclosure

/-! ## The shape of a trace -/

namespace Trace

variable {ι μ β : Type}

mutual

/-- A trace has the shape of a tree. -/
def Fits : Trace μ → Tree ι μ β → Prop
  | .node _ _ _ traces, .node _ _ _ children => FitsList traces children

/-- Several traces have the shapes of as many trees. -/
def FitsList : List (Trace μ) → List (Tree ι μ β) → Prop
  | [], [] => True
  | trace :: traces, tree :: trees => Fits trace tree ∧ FitsList traces trees
  | _, _ => False

end

theorem fitsList_iff_forall₂
    (traces : List (Trace μ)) (trees : List (Tree ι μ β)) :
    FitsList traces trees ↔ List.Forall₂ Fits traces trees := by
  induction traces generalizing trees with
  | nil => cases trees <;> simp [FitsList]
  | cons trace traces ih => cases trees <;> simp [FitsList, ih]

theorem fits_node
    (status : Option Status) (count : Nat) (memory : Option μ)
    (traces : List (Trace μ))
    (id : ι) (name : String) (kind : Kind μ β)
    (children : List (Tree ι μ β)) :
    Fits (.node status count memory traces) (.node id name kind children) ↔
      List.Forall₂ Fits traces children := by
  rw [Fits, fitsList_iff_forall₂]

/-- What is related to the same item can be put in the place of another one. -/
theorem forall₂_set {σ τ : Type} {rel : σ → τ → Prop}
    {states : List σ} {items : List τ}
    (related : List.Forall₂ rel states items)
    {index : Nat} {item : τ} {next : σ}
    (found : items[index]? = some item)
    (holds : rel next item) :
    List.Forall₂ rel (states.set index next) items := by
  induction related generalizing index with
  | nil => simp at found
  | cons first rest ih =>
    cases index with
    | zero =>
      have same : _ = item := Option.some.inj found
      subst same
      exact .cons holds rest
    | succ index =>
      exact .cons first (ih (by simpa using found))

mutual

theorem blank_fits : (tree : Tree ι μ β) → (blank tree).Fits tree
  | .node _ _ _ children => by
    rw [blank, Fits]
    exact blankList_fits children

theorem blankList_fits :
    (trees : List (Tree ι μ β)) → FitsList (blankList trees) trees
  | [] => by
    rw [blankList, FitsList]
    trivial
  | tree :: trees => by
    rw [blankList, FitsList]
    exact ⟨blank_fits tree, blankList_fits trees⟩

end

end Trace

namespace Tree

variable {ι μ β : Type}

mutual

/-- Setting up keeps the shape of a trace. -/
theorem setup_fits :
    (tree : Tree ι μ β) → (trace : Trace μ) → (board : β) →
      trace.Fits tree → (tree.setup trace board).1.Fits tree
  | .node id name kind children, .node status count memory traces, board,
      fits => by
    rw [Trace.Fits] at fits
    rw [setup, Trace.Fits]
    exact setupList_fits children traces _ fits

theorem setupList_fits :
    (trees : List (Tree ι μ β)) → (traces : List (Trace μ)) → (board : β) →
      Trace.FitsList traces trees →
      Trace.FitsList (setupList trees traces board).1 trees
  | [], [], _, fits => fits
  | [], _ :: _, _, fits => fits
  | _ :: _, [], _, fits => fits
  | tree :: trees, trace :: traces, board, fits => by
    rw [Trace.FitsList] at fits
    rw [setupList, Trace.FitsList]
    exact ⟨setup_fits tree trace board fits.1,
      setupList_fits trees traces _ fits.2⟩

end

end Tree

/-! ## Running without a trace -/

/-- Something to run: it answers and changes the blackboard. -/
abbrev Runner (β : Type) := β → Except TickError (Status × β)

namespace Runner

variable {β : Type}

/-- Run in order as long as the answer is `through`. -/
def inOrder (through : Status) : List (Runner β) → Runner β
  | [], board => .ok (through, board)
  | run :: runs, board => do
    let first ← run board
    if first.1 = through then inOrder through runs first.2
    else return first

/-- Run in the given order until one of the two thresholds is crossed. -/
def inParallel (runs : List (Runner β)) (minSuccess maxFailures : Nat) :
    (order : List Nat) → (successes failures : Nat) → Runner β
  | [], _, _, board => .ok (.running, board)
  | index :: order, successes, failures, board =>
    match runs[index]? with
    | some run => do
      let first ← run board
      match first.1 with
      | .success =>
        if minSuccess ≤ successes + 1 then return (.success, first.2)
        else
          inParallel runs minSuccess maxFailures order (successes + 1)
            failures first.2
      | .failure =>
        if maxFailures < failures + 1 then return (.failure, first.2)
        else
          inParallel runs minSuccess maxFailures order successes
            (failures + 1) first.2
      | .running =>
        inParallel runs minSuccess maxFailures order successes failures
          first.2
    | none => .error .malformed

/-- Run all in a random order, up to so many successes. -/
def parallel [Blackboard β] (minSuccess : Nat) (runs : List (Runner β)) :
    Runner β := fun board =>
  if runs.length < minSuccess then .error .malformed
  else
    let (order, stream) :=
      (Blackboard.random board).shuffle (List.range runs.length)
    inParallel runs minSuccess (runs.length - minSuccess) order 0 0
      (Blackboard.setRandom stream board)

/-- Run up to so many times as long as the answer is `through`. -/
def repeatWhile (through : Status) (run : Runner β) : Nat → Runner β
  | 0, board => .ok (through, board)
  | times + 1, board => do
    let first ← run board
    if first.1 = through then repeatWhile through run times first.2
    else return first

/-- Run until the answer is failure or running. -/
def untilFailure (run : Runner β) : (bound : Nat) → Runner β
  | 0, _ => .error .unbounded
  | bound + 1, board => do
    let first ← run board
    match first.1 with
    | .success => untilFailure run bound first.2
    | .failure => return (.success, first.2)
    | .running => return (.running, first.2)

/-- Run once and transform the answer. -/
def mapStatus (change : Status → Status) (run : Runner β) : Runner β :=
  fun board => do
    let first ← run board
    return (change first.1, first.2)

end Runner

/-- The runner of a decorator over that of its child. -/
def Decorator.runner {β : Type} (bound : Nat) (run : Runner β) :
    Decorator → Runner β
  | invert => run.mapStatus Status.invert
  | forceSuccess => run.mapStatus fun _ => .success
  | forceFailure => run.mapStatus fun _ => .failure
  | forceRunning => run.mapStatus fun _ => .running
  | runningIsSuccess => run.mapStatus fun status =>
    if status = .failure then .failure else .success
  | runningIsFailure => run.mapStatus fun status =>
    if status = .success then .success else .failure
  | retry times _ => run.repeatWhile .failure times
  | repeated times _ => run.repeatWhile .success times
  | untilFailure _ => run.untilFailure bound

/-- The runner of a node of this kind over those of its children. -/
def Kind.runner {β : Type} [Blackboard β] (bound : Nat)
    (runs : List (Runner β)) : Kind Unit β → Runner β
  | sequence => .inOrder .success runs
  | fallback => .inOrder .failure runs
  | parallel minSuccess => .parallel minSuccess runs
  | decorator transform =>
    match runs with
    | [] => fun _ => .error .malformed
    | run :: _ => transform.runner bound run
  | leaf behavior => fun board =>
    let (status, _, board) := behavior.act () board
    .ok (status, board)

namespace Tree

variable {ι β : Type}

mutual

/-- What a tick of a tree without memory does to the blackboard. -/
def run [Blackboard β] (bound : Nat) : Tree ι Unit β → Runner β
  | .node _ _ kind children => kind.runner bound (runners bound children)

/-- The runners of several trees. -/
def runners [Blackboard β] (bound : Nat) :
    List (Tree ι Unit β) → List (Runner β)
  | [] => []
  | tree :: trees => tree.run bound :: runners bound trees

end

@[simp]
theorem runners_eq_map [Blackboard β] (bound : Nat)
    (trees : List (Tree ι Unit β)) :
    runners bound trees = trees.map (run bound) := by
  induction trees with
  | nil => rfl
  | cons tree trees ih => rw [runners, List.map_cons, ih]

end Tree

/-! ## A tick is a run -/

/-- The result of a tick and that of a run are the same, up to the trace. -/
def Matches {σ β : Type} (fits : σ → Prop) :
    Except TickError (Step σ β) → Except TickError (Status × β) → Prop
  | .ok step, .ok (status, board) =>
    step.status = status ∧ step.board = board ∧ fits step.state
  | .error found, .error expected => found = expected
  | _, _ => False

theorem Matches.bind
    {σ τ β : Type} {fits : σ → Prop} {fitsAfter : τ → Prop}
    {ticked : Except TickError (Step σ β)}
    {ran : Except TickError (Status × β)}
    {tickNext : Step σ β → Except TickError (Step τ β)}
    {runNext : Status × β → Except TickError (Status × β)}
    (first : Matches fits ticked ran)
    (next : ∀ step, fits step.state →
      Matches fitsAfter (tickNext step) (runNext (step.status, step.board))) :
    Matches fitsAfter (ticked >>= tickNext) (ran >>= runNext) := by
  cases ticked with
  | error found =>
    cases ran with
    | error expected => exact first
    | ok result => exact first.elim
  | ok step =>
    cases ran with
    | error expected => exact first.elim
    | ok result =>
      rcases result with ⟨status, board⟩
      rcases first with ⟨sameStatus, sameBoard, fitting⟩
      subst sameStatus sameBoard
      exact next step fitting

/-- Only what is remembered is put together anew after the tick. -/
theorem Matches.wrap
    {σ τ β : Type} {fits : σ → Prop} {fitsAfter : τ → Prop}
    {ticked : Except TickError (Step σ β)}
    {ran : Except TickError (Status × β)}
    {wrap : Step σ β → τ}
    (first : Matches fits ticked ran)
    (next : ∀ step, fits step.state → fitsAfter (wrap step)) :
    Matches fitsAfter
      (ticked >>= fun step => .ok ⟨step.status, wrap step, step.board⟩)
      ran := by
  cases ticked with
  | error found =>
    cases ran with
    | error expected => exact first
    | ok result => exact first.elim
  | ok step =>
    cases ran with
    | error expected => exact first.elim
    | ok result =>
      rcases first with ⟨sameStatus, sameBoard, fitting⟩
      exact ⟨sameStatus, sameBoard, next _ fitting⟩

/-- From every fitting state, ticking gives what running gives. -/
def Follows {σ β : Type} (fits : σ → Prop) (tick : Ticker σ β)
    (run : Runner β) : Prop :=
  ∀ state board, fits state → Matches fits (tick state board) (run board)

namespace Follows

section Loops

variable {σ β : Type} {fits : σ → Prop} {tick : Ticker σ β} {run : Runner β}

/-- What a decorator remembers: a state of its child, and any count. -/
abbrev Counting (fits : σ → Prop) : σ × Nat → Prop := fun state => fits state.1

theorem mapStatus
    (follows : Follows fits tick run)
    (change : Status → Status) :
    Follows (Counting fits) (tick.mapStatus change) (run.mapStatus change) := by
  intro state board fitting
  apply Matches.bind (follows state.1 board fitting)
  intro step stepFits
  exact ⟨rfl, rfl, stepFits⟩

theorem repeatWhile
    (follows : Follows fits tick run)
    (through : Status) (times : Nat) :
    Follows (Counting fits) (tick.repeatWhile through times)
      (run.repeatWhile through times) := by
  induction times with
  | zero =>
    intro state board fitting
    exact ⟨rfl, rfl, fitting⟩
  | succ times ih =>
    intro state board fitting
    apply Matches.bind (follows state.1 board fitting)
    intro step stepFits
    by_cases goesOn : step.status = through
    · simp only [goesOn, if_true]
      exact ih (step.state, state.2 + 1) step.board stepFits
    · simp only [goesOn, if_false]
      exact ⟨rfl, rfl, stepFits⟩

theorem untilFailure
    (follows : Follows fits tick run)
    (bound : Nat) :
    Follows (Counting fits) (tick.untilFailure bound)
      (run.untilFailure bound) := by
  induction bound with
  | zero =>
    intro state board fitting
    rfl
  | succ bound ih =>
    intro state board fitting
    apply Matches.bind (follows state.1 board fitting)
    intro step stepFits
    cases answer : step.status with
    | success => exact ih (step.state, state.2 + 1) step.board stepFits
    | failure => exact ⟨rfl, rfl, stepFits⟩
    | running => exact ⟨rfl, rfl, stepFits⟩

theorem decorator
    (follows : Follows fits tick run)
    (bound : Nat) (transform : Decorator) :
    Follows (Counting fits) (transform.ticker bound tick)
      (transform.runner bound run) := by
  cases transform with
  | invert | forceSuccess | forceFailure | forceRunning | runningIsSuccess
  | runningIsFailure =>
    rw [Decorator.ticker, Decorator.runner]
    exact follows.mapStatus _
  | retry times reset => exact follows.repeatWhile .failure times
  | repeated times reset => exact follows.repeatWhile .success times
  | untilFailure reset => exact follows.untilFailure bound

end Loops

section Composites

variable {ι β : Type} [Blackboard β] {bound : Nat}

/-- The children of a node, each followed by its runner. -/
abbrev EachFollows (bound : Nat) (trees : List (Tree ι Unit β)) : Prop :=
  ∀ tree ∈ trees, Follows (Trace.Fits · tree) (tree.tick bound) (tree.run bound)

/-- Traces of the children of a node. -/
abbrev FitAll (trees : List (Tree ι Unit β)) (traces : List (Trace Unit)) :
    Prop :=
  List.Forall₂ Trace.Fits traces trees

theorem inOrder
    {trees : List (Tree ι Unit β)}
    (follows : EachFollows bound trees)
    (through : Status) :
    Follows (FitAll trees)
      (Ticker.inOrder through (trees.map (Tree.tick bound)))
      (Runner.inOrder through (trees.map (Tree.run bound))) := by
  induction trees with
  | nil =>
    intro traces board fitting
    exact ⟨rfl, rfl, fitting⟩
  | cons tree trees ih =>
    intro traces board fitting
    cases fitting with
    | cons first rest =>
      have headFollows := follows tree (by simp)
      have tailFollows : EachFollows bound trees :=
        fun other member => follows other (by simp [member])
      apply Matches.bind (headFollows _ board first)
      intro step stepFits
      by_cases goesOn : step.status = through
      · simp only [goesOn, if_true]
        apply Matches.wrap (ih tailFollows _ step.board rest)
        intro later laterFits
        exact .cons stepFits laterFits
      · simp only [goesOn, if_false]
        exact ⟨rfl, rfl, .cons stepFits rest⟩

theorem inParallel
    {trees : List (Tree ι Unit β)}
    (follows : EachFollows bound trees)
    (minSuccess maxFailures : Nat) (order : List Nat)
    (successes failures : Nat) :
    Follows (FitAll trees)
      (Ticker.inParallel (trees.map (Tree.tick bound)) minSuccess maxFailures
        order successes failures)
      (Runner.inParallel (trees.map (Tree.run bound)) minSuccess maxFailures
        order successes failures) := by
  induction order generalizing successes failures with
  | nil =>
    intro traces board fitting
    exact ⟨rfl, rfl, fitting⟩
  | cons index order ih =>
    intro traces board fitting
    have sameLength : traces.length = trees.length := fitting.length_eq
    by_cases inside : index < trees.length
    · have tracesInside : index < traces.length := by omega
      have treeAt : trees[index]? = some trees[index] :=
        List.getElem?_eq_getElem inside
      have traceFits : (traces[index]).Fits trees[index] := by
        simpa using fitting.get (i := index) tracesInside inside
      have childFollows := follows trees[index] (List.getElem_mem inside)
      simp only [Ticker.inParallel, Runner.inParallel, List.getElem?_map,
        treeAt, Option.map_some, List.getElem?_eq_getElem tracesInside]
      apply Matches.bind (childFollows _ board traceFits)
      intro step stepFits
      have nextFits := Trace.forall₂_set fitting treeAt stepFits
      cases answer : step.status with
      | success =>
        by_cases enough : minSuccess ≤ successes + 1
        · simp only [enough, if_true]
          exact ⟨rfl, rfl, nextFits⟩
        · simp only [enough, if_false]
          exact ih (successes + 1) failures _ step.board nextFits
      | failure =>
        by_cases tooMany : maxFailures < failures + 1
        · simp only [tooMany, if_true]
          exact ⟨rfl, rfl, nextFits⟩
        · simp only [tooMany, if_false]
          exact ih successes (failures + 1) _ step.board nextFits
      | running => exact ih successes failures _ step.board nextFits
    · have noTree : trees[index]? = none :=
        List.getElem?_eq_none (by omega)
      simp only [Ticker.inParallel, Runner.inParallel, List.getElem?_map,
        noTree, Option.map_none]
      rfl

theorem parallel
    {trees : List (Tree ι Unit β)}
    (follows : EachFollows bound trees)
    (minSuccess : Nat) :
    Follows (FitAll trees)
      (Ticker.parallel minSuccess (trees.map (Tree.tick bound)))
      (Runner.parallel minSuccess (trees.map (Tree.run bound))) := by
  intro traces board fitting
  by_cases tooFew : trees.length < minSuccess
  · simp only [Ticker.parallel, Runner.parallel, List.length_map, tooFew,
      if_true]
    rfl
  · simp only [Ticker.parallel, Runner.parallel, List.length_map, tooFew,
      if_false]
    exact inParallel follows _ _ _ _ _ traces _ fitting

/-- A node follows its runner if its children follow theirs. -/
theorem node
    {id : ι} {name : String} {kind : Kind Unit β}
    {trees : List (Tree ι Unit β)}
    (follows : EachFollows bound trees) :
    Follows (Trace.Fits · (.node id name kind trees))
      (kind.ticker bound (trees.map (Tree.tick bound)))
      (kind.runner bound (trees.map (Tree.run bound))) := by
  intro trace board fitting
  rcases trace with ⟨status, count, memory, traces⟩
  rw [Trace.fits_node] at fitting
  have rebuild (status : Option Status) (count : Nat) (memory : Option Unit)
      (traces : List (Trace Unit)) (fits : FitAll trees traces) :
      Trace.Fits (.node status count memory traces)
        (.node id name kind trees) :=
    (Trace.fits_node ..).mpr fits
  cases kind with
  | sequence =>
    apply Matches.wrap (inOrder follows .success traces board fitting)
    intro step stepFits
    exact rebuild _ _ _ _ stepFits
  | fallback =>
    apply Matches.wrap (inOrder follows .failure traces board fitting)
    intro step stepFits
    exact rebuild _ _ _ _ stepFits
  | parallel minSuccess =>
    apply Matches.wrap (parallel follows minSuccess traces board fitting)
    intro step stepFits
    exact rebuild _ _ _ _ stepFits
  | decorator transform =>
    cases fitting with
    | nil => rfl
    | cons first rest =>
      have childFollows := follows _ (List.mem_cons_self ..)
      refine Matches.wrap
        (childFollows.decorator bound transform (_, _) board first) ?_
      intro step stepFits
      exact rebuild _ _ _ _ (.cons stepFits rest)
  | leaf behavior =>
    exact ⟨rfl, rfl, rebuild _ _ _ _ fitting⟩

end Composites

end Follows

namespace Tree

variable {ι β : Type} [Blackboard β] (bound : Nat)

mutual

/-- A tick gives what a run gives, from any trace of the shape of the tree. -/
theorem tick_follows_run :
    (tree : Tree ι Unit β) →
      Follows (Trace.Fits · tree) (tree.tick bound) (tree.run bound)
  | .node id name kind children => by
    rw [tick, run, tickers_eq_map, runners_eq_map]
    exact Follows.node (ticks_follow_runs children)

theorem ticks_follow_runs :
    (trees : List (Tree ι Unit β)) → Follows.EachFollows bound trees
  | [] => fun _ member => by simp at member
  | tree :: trees => fun other member => by
    rcases List.mem_cons.mp member with same | later
    · rw [same]
      exact tick_follows_run tree
    · exact ticks_follow_runs trees other later

end

mutual

/-- Identities have no part in a run. -/
theorem run_erase :
    (tree : Tree ι Unit β) → tree.erase.run bound = tree.run bound
  | .node id name kind children => by
    rw [erase, run, run, runners_eraseList children]

theorem runners_eraseList :
    (trees : List (Tree ι Unit β)) →
      runners bound (eraseList trees) = runners bound trees
  | [] => rfl
  | tree :: trees => by
    rw [eraseList, runners, runners, run_erase tree, runners_eraseList trees]

end

end Tree

end Disclosure
