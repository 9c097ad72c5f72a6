import Disclosure.Proofs.Random.Draw
import Disclosure.Proofs.Tree.Memoryless
import Disclosure.Tree.Workbench

/-!
# Built trees are safe

A builder accepts only trees in which every node has as many children as its kind
demands.  So a tick of a built tree always finds the children that it looks for:
from any trace of the shape of the tree it comes to an answer and leaves a trace of
that shape, whatever the leaves do and remember.  Only a loop without an end of its
own may keep it from that.
-/

namespace Disclosure

variable {ι μ σ τ β : Type}

/-! ## Arity -/

namespace Kind

/-- A node of this kind may have so many children. -/
def Admits (children : Nat) : Kind μ β → Prop
  | sequence => True
  | fallback => True
  | parallel minSuccess =>
    2 ≤ children ∧ 1 ≤ minSuccess ∧ minSuccess ≤ children
  | decorator _ => children = 1
  | leaf _ => children = 0

/-- A node of this kind ticks its child until it fails, however often. -/
def IsEndless : Kind μ β → Prop
  | decorator (.untilFailure _) => True
  | _ => False

theorem admits_of_arityError {kind : Kind μ β} {name : String}
    {children : Nat}
    (accepted : kind.arityError? name children = none) :
    kind.Admits children := by
  cases kind with
  | sequence | fallback => trivial
  | parallel minSuccess =>
    simp only [arityError?] at accepted
    split at accepted
    · cases accepted
    · split at accepted
      · cases accepted
      · rw [Admits]
        omega
  | decorator | leaf =>
    simp only [arityError?] at accepted
    split at accepted
    · assumption
    · cases accepted

end Kind

/-- Every node has as many children as its kind demands. -/
def Tree.Apt (tree : Tree ι μ β) : Prop :=
  ∀ part ∈ tree.nodes, part.kind.Admits part.children.length

namespace Builder

/-- The build of several specifications has as many trees. -/
theorem length_of_buildList {builder last : Builder} {specs : List (Spec μ β)}
    {nodes : List (Node μ β)}
    (built : builder.buildList specs = (.ok nodes, last)) :
    nodes.length = specs.length := by
  induction specs generalizing builder nodes with
  | nil =>
    rw [buildList] at built
    cases built
    rfl
  | cons spec specs ih =>
    rw [buildList] at built
    split at built
    · cases built
    · split at built
      · cases built
      next rest =>
        cases built
        rw [List.length_cons, List.length_cons, ih rest]

mutual

/-- Whatever is built is apt. -/
theorem apt_of_build {builder last : Builder} {node : Node μ β} :
    (spec : Spec μ β) → builder.build spec = (.ok node, last) → node.Apt
  | .node _ name kind children, built => by
    rw [build] at built
    split at built
    · cases built
    next accepted =>
      split at built
      · cases built
      next nodes middle rest =>
        cases built
        intro part among
        rw [Tree.nodes] at among
        rcases List.mem_cons.mp among with rfl | below
        · have admits := Kind.admits_of_arityError accepted
          rw [← length_of_buildList rest] at admits
          exact admits
        · exact apt_of_buildList children rest part below

theorem apt_of_buildList {builder last : Builder} {nodes : List (Node μ β)} :
    (specs : List (Spec μ β)) →
      builder.buildList specs = (.ok nodes, last) →
      ∀ part ∈ Tree.nodesOfList nodes,
        part.kind.Admits part.children.length
  | [], built => by
    rw [buildList] at built
    cases built
    simp
  | spec :: specs, built => by
    rw [buildList] at built
    split at built
    · cases built
    next first =>
      split at built
      · cases built
      next rest =>
        cases built
        intro part among
        rw [Tree.nodesOfList] at among
        rcases List.mem_append.mp among with here | there
        · exact apt_of_build spec first part here
        · exact apt_of_buildList specs rest part there

end

end Builder

/-! ## Tickers -/

/-- There is an answer, and what is remembered after it fits; or the bound was
reached, for which there is a reason. -/
def Fair (reason : Prop) (fits : σ → Prop) :
    Except TickError (Step σ β) → Prop
  | .ok step => fits step.state
  | .error .unbounded => reason
  | .error .malformed => False

/-- From whatever fits, each tick is fair. -/
def Ticker.Safe (reason : Prop) (fits : σ → Prop) (tick : Ticker σ β) : Prop :=
  ∀ state board, fits state → Fair reason fits (tick state board)

namespace Fair

variable {reason : Prop} {fits : σ → Prop} {fitsAfter : τ → Prop}
  {ticked : Except TickError (Step σ β)}

theorem bind {next : Step σ β → Except TickError (Step τ β)}
    (fair : Fair reason fits ticked)
    (goesOn : ∀ step, fits step.state → Fair reason fitsAfter (next step)) :
    Fair reason fitsAfter (ticked >>= next) := by
  cases ticked with
  | ok step => exact goesOn step fair
  | error found =>
    cases found with
    | unbounded => exact fair
    | malformed => exact fair

end Fair

namespace Ticker

variable {reason : Prop}

namespace Safe

section Loops

variable {fits : σ → Prop} {tick : Ticker σ β}

theorem mapStatus (safe : tick.Safe reason fits) (change : Status → Status) :
    (tick.mapStatus change).Safe reason fun state => fits state.1 := by
  intro state board fitting
  apply (safe state.1 board fitting).bind
  exact fun step stepFits => stepFits

theorem repeatWhile (safe : tick.Safe reason fits) (through : Status)
    (times : Nat) :
    (tick.repeatWhile through times).Safe reason fun state => fits state.1 := by
  induction times with
  | zero => exact fun state board fitting => fitting
  | succ times ih =>
    intro state board fitting
    apply (safe state.1 board fitting).bind
    intro step stepFits
    split
    · exact ih (step.state, state.2 + 1) step.board stepFits
    · exact stepFits

theorem untilFailure (safe : tick.Safe reason fits) (endless : reason)
    (bound : Nat) :
    (tick.untilFailure bound).Safe reason fun state => fits state.1 := by
  induction bound with
  | zero => exact fun state board fitting => endless
  | succ bound ih =>
    intro state board fitting
    apply (safe state.1 board fitting).bind
    intro step stepFits
    split
    · exact ih (step.state, state.2 + 1) step.board stepFits
    · exact stepFits
    · exact stepFits

theorem decorator (safe : tick.Safe reason fits) (bound : Nat)
    {transform : Decorator}
    (endless : (Kind.decorator transform : Kind μ β).IsEndless → reason) :
    (transform.ticker bound tick).Safe reason fun state => fits state.1 := by
  cases transform with
  | invert | forceSuccess | forceFailure | forceRunning | runningIsSuccess
  | runningIsFailure =>
    rw [Decorator.ticker]
    exact safe.mapStatus _
  | retry times reset => exact safe.repeatWhile .failure times
  | repeated times reset => exact safe.repeatWhile .success times
  | untilFailure reset => exact safe.untilFailure (endless trivial) bound

end Loops

/-! ### Several children -/

section Children

variable [Blackboard β] {bound : Nat} {trees : List (Tree ι μ β)}

/-- Each child of a node is safe from traces of its shape. -/
abbrev Each (reason : Prop) (bound : Nat) (trees : List (Tree ι μ β)) : Prop :=
  ∀ tree ∈ trees, (tree.tick bound).Safe reason (Trace.Fits · tree)

/-- Traces of the shapes of the children of a node. -/
abbrev FitEach (trees : List (Tree ι μ β)) (traces : List (Trace μ)) : Prop :=
  List.Forall₂ Trace.Fits traces trees

theorem inOrder (each : Each reason bound trees) (through : Status) :
    (Ticker.inOrder through (trees.map (Tree.tick bound))).Safe reason
      (FitEach trees) := by
  induction trees with
  | nil => exact fun traces board fitting => fitting
  | cons tree trees ih =>
    intro traces board fitting
    cases fitting with
    | cons first rest =>
      have later : Each reason bound trees :=
        fun other member => each other (by simp [member])
      apply (each tree (by simp) _ board first).bind
      intro step stepFits
      split
      · apply (ih later _ step.board rest).bind
        intro last lastFits
        exact .cons stepFits lastFits
      · exact .cons stepFits rest

/-- All that is ticked in some order is there to be ticked. -/
theorem inParallel (each : Each reason bound trees)
    (minSuccess maxFailures : Nat) {order : List Nat}
    (inside : ∀ index ∈ order, index < trees.length)
    (successes failures : Nat) :
    (Ticker.inParallel (trees.map (Tree.tick bound)) minSuccess maxFailures
      order successes failures).Safe reason (FitEach trees) := by
  induction order generalizing successes failures with
  | nil => exact fun traces board fitting => fitting
  | cons index order ih =>
    intro traces board fitting
    have here : index < trees.length := inside index (by simp)
    have hereToo : index < traces.length := fitting.length_eq ▸ here
    have treeAt : trees[index]? = some trees[index] :=
      List.getElem?_eq_getElem here
    have traceFits : traces[index].Fits trees[index] := by
      simpa using fitting.get (i := index) hereToo here
    have goesOn := ih fun other member => inside other (by simp [member])
    simp only [Ticker.inParallel, List.getElem?_map, treeAt, Option.map_some,
      List.getElem?_eq_getElem hereToo]
    apply (each _ (List.getElem_mem here) _ board traceFits).bind
    intro step stepFits
    have nextFits := Trace.forall₂_set fitting treeAt stepFits
    split
    · split
      · exact nextFits
      · exact goesOn _ _ _ step.board nextFits
    · split
      · exact nextFits
      · exact goesOn _ _ _ step.board nextFits
    · exact goesOn _ _ _ step.board nextFits

/-- A shuffle of all places leads to no other place. -/
theorem parallel (each : Each reason bound trees) {minSuccess : Nat}
    (within : minSuccess ≤ trees.length) :
    (Ticker.parallel minSuccess (trees.map (Tree.tick bound))).Safe reason
      (FitEach trees) := by
  intro traces board fitting
  have enough : ¬ (trees.map (Tree.tick bound)).length < minSuccess := by
    rw [List.length_map]
    exact Nat.not_lt.mpr within
  rw [Ticker.parallel, if_neg enough]
  refine inParallel each _ _ ?_ _ _ traces _ fitting
  intro index member
  have listed := (RandomStream.shuffle_perm _ _).mem_iff.mp member
  simpa using listed

/-- A node with as many children as its kind demands is safe if its children
are. -/
theorem node {id : ι} {name : String} {kind : Kind μ β}
    (admits : kind.Admits trees.length)
    (endless : kind.IsEndless → reason)
    (each : Each reason bound trees) :
    (kind.ticker bound (trees.map (Tree.tick bound))).Safe reason
      (Trace.Fits · (.node id name kind trees)) := by
  rintro ⟨status, count, memory, traces⟩ board fitting
  rw [Trace.fits_node] at fitting
  have rebuild (status : Option Status) (count : Nat) (memory : Option μ)
      (traces : List (Trace μ)) (fits : FitEach trees traces) :
      Trace.Fits (.node status count memory traces)
        (.node id name kind trees) :=
    (Trace.fits_node ..).mpr fits
  cases kind with
  | sequence =>
    apply (inOrder each .success traces board fitting).bind
    intro step stepFits
    exact rebuild step.status count memory step.state stepFits
  | fallback =>
    apply (inOrder each .failure traces board fitting).bind
    intro step stepFits
    exact rebuild step.status count memory step.state stepFits
  | parallel minSuccess =>
    apply (parallel each admits.2.2 traces board fitting).bind
    intro step stepFits
    exact rebuild step.status count memory step.state stepFits
  | decorator transform =>
    cases fitting with
    | nil => cases admits
    | cons first rest =>
      have child := each _ (List.mem_cons_self ..)
      apply (child.decorator bound endless (_, _) board first).bind
      intro step stepFits
      exact rebuild step.status step.state.2 memory _ (.cons stepFits rest)
  | leaf behavior =>
    let acted := behavior.act (memory.getD behavior.memory) board
    exact rebuild acted.1 count acted.2.1 traces fitting

end Children

end Safe

end Ticker

/-! ## Trees -/

namespace Tree

variable {reason : Prop}

mutual

/-- An apt tree is safe, and only endless loops are a reason to reach the
bound. -/
theorem tick_safe [Blackboard β] (bound : Nat) :
    (tree : Tree ι μ β) → tree.Apt →
      (∀ part ∈ tree.nodes, part.kind.IsEndless → reason) →
      (tree.tick bound).Safe reason (Trace.Fits · tree)
  | .node id name kind children, apt, endless => by
    rw [Apt, nodes] at apt
    rw [nodes] at endless
    rw [tick, tickers_eq_map]
    exact .node (apt _ (List.mem_cons_self ..))
      (endless _ (List.mem_cons_self ..))
      (ticks_safe bound children
        (fun part below => apt part (List.mem_cons_of_mem _ below))
        fun part below => endless part (List.mem_cons_of_mem _ below))

theorem ticks_safe [Blackboard β] (bound : Nat) :
    (trees : List (Tree ι μ β)) →
      (∀ part ∈ nodesOfList trees, part.kind.Admits part.children.length) →
      (∀ part ∈ nodesOfList trees, part.kind.IsEndless → reason) →
      Ticker.Safe.Each reason bound trees
  | [], _, _ => fun _ member => by simp at member
  | tree :: trees, apt, endless => fun other member => by
    rw [nodesOfList] at apt endless
    rcases List.mem_cons.mp member with same | later
    · rw [same]
      exact tick_safe bound tree
        (fun part below => apt part (List.mem_append_left _ below))
        fun part below => endless part (List.mem_append_left _ below)
    · exact ticks_safe bound trees
        (fun part below => apt part (List.mem_append_right _ below))
        (fun part below => endless part (List.mem_append_right _ below))
        other later

end

end Tree

namespace Trace

mutual

/-- Forgetting the statuses keeps the shape of a trace. -/
theorem clear_fits :
    (trace : Trace μ) → (tree : Tree ι μ β) → trace.Fits tree →
      trace.clear.Fits tree
  | .node status count memory traces, .node id name kind children, fits => by
    rw [Fits] at fits
    rw [clear, Fits]
    exact clearList_fits traces children fits

theorem clearList_fits :
    (traces : List (Trace μ)) → (trees : List (Tree ι μ β)) →
      FitsList traces trees → FitsList (clearList traces) trees
  | [], [], fits => fits
  | [], _ :: _, fits => fits
  | _ :: _, [], fits => by
    rw [FitsList] at fits
    · exact fits.elim
    all_goals simp
  | trace :: traces, tree :: trees, fits => by
    rw [FitsList] at fits
    rw [clearList, FitsList]
    exact ⟨clear_fits trace tree fits.1, clearList_fits traces trees fits.2⟩

end

mutual

/-- A trace of the shape of a tree has a place for each of its nodes. -/
theorem length_nodes_of_fits :
    (trace : Trace μ) → (tree : Tree ι μ β) → trace.Fits tree →
      trace.nodes.length = tree.nodes.length
  | .node status count memory traces, .node id name kind children, fits => by
    rw [Fits] at fits
    rw [nodes, Tree.nodes, List.length_cons, List.length_cons,
      length_nodes_of_fitsList traces children fits]

theorem length_nodes_of_fitsList :
    (traces : List (Trace μ)) → (trees : List (Tree ι μ β)) →
      FitsList traces trees →
      (nodesOfList traces).length = (Tree.nodesOfList trees).length
  | [], [], _ => rfl
  | [], _ :: _, fits => by
    rw [FitsList] at fits
    · exact fits.elim
    all_goals simp
  | _ :: _, [], fits => by
    rw [FitsList] at fits
    · exact fits.elim
    all_goals simp
  | trace :: traces, tree :: trees, fits => by
    rw [FitsList] at fits
    rw [nodesOfList, Tree.nodesOfList, List.length_append, List.length_append,
      length_nodes_of_fits trace tree fits.1,
      length_nodes_of_fitsList traces trees fits.2]

end

end Trace

/-! ## Calls -/

namespace LiveNode

/-- What can be done with a live node.  Setting up and ticking may be on another
blackboard each time. -/
inductive Call (β : Type) where
  | setup (board : β)
  | tick (bound : Nat) (board : β)
  | clear

/-- The live node after a call. -/
def call [Blackboard β] (live : LiveNode μ β) :
    Call β → Except TickError (LiveNode μ β)
  | .setup board => .ok (live.setup board).1
  | .tick bound board => do
    let step ← live.tick bound board
    return step.state
  | .clear => .ok live.clear

/-- The live node after several calls, as long as each has a result. -/
def callAll [Blackboard β] (live : LiveNode μ β) (calls : List (Call β)) :
    Except TickError (LiveNode μ β) :=
  calls.foldlM call live

/-- The live node is this one, with a trace of its shape. -/
structure Embodies (live : LiveNode μ β) (node : Node μ β) : Prop where
  same : live.node = node
  fits : live.trace.Fits node

namespace Embodies

variable {live : LiveNode μ β} {node : Node μ β} {reason : Prop}

/-- Each node has its place in the trace. -/
theorem entries (embodies : live.Embodies node) :
    live.entries.map Prod.fst = node.nodes := by
  have places := Trace.length_nodes_of_fits _ _ embodies.fits
  rw [LiveNode.entries, embodies.same]
  exact List.map_fst_zip (Nat.le_of_eq places.symm)

/-- A call comes to its end, or it is a tick that goes on beyond its bound. -/
theorem call [Blackboard β]
    (embodies : live.Embodies node)
    (apt : node.Apt)
    (endless : ∀ part ∈ node.nodes, part.kind.IsEndless → reason)
    (call : Call β) :
    (∃ next, live.call call = .ok next ∧ next.Embodies node) ∨
      live.call call = .error .unbounded ∧ reason := by
  rcases live with ⟨built, trace⟩
  rcases embodies with ⟨rfl, fits⟩
  cases call with
  | setup board =>
    exact .inl ⟨_, rfl, rfl, Tree.setup_fits built trace board fits⟩
  | clear => exact .inl ⟨_, rfl, rfl, Trace.clear_fits trace built fits⟩
  | tick bound board =>
    have fair := Tree.tick_safe bound built apt endless trace board fits
    cases ticked : built.tick bound trace board with
    | ok step =>
      rw [ticked] at fair
      refine .inl ⟨⟨built, step.state⟩, ?_, rfl, fair⟩
      rw [LiveNode.call, LiveNode.tick, ticked]
      rfl
    | error found =>
      rw [ticked] at fair
      cases found with
      | malformed => exact fair.elim
      | unbounded =>
        refine .inr ⟨?_, fair⟩
        rw [LiveNode.call, LiveNode.tick, ticked]
        rfl

theorem callAll [Blackboard β]
    (embodies : live.Embodies node)
    (apt : node.Apt)
    (endless : ∀ part ∈ node.nodes, part.kind.IsEndless → reason)
    (calls : List (Call β)) :
    (∃ last, live.callAll calls = .ok last ∧ last.Embodies node) ∨
      live.callAll calls = .error .unbounded ∧ reason := by
  induction calls generalizing live with
  | nil => exact .inl ⟨live, rfl, embodies⟩
  | cons first calls ih =>
    rw [LiveNode.callAll, List.foldlM_cons]
    rcases embodies.call apt endless first with
      ⟨next, called, embodiesStill⟩ | ⟨failed, because⟩
    · rw [called]
      exact ih embodiesStill
    · rw [failed]
      exact .inr ⟨rfl, because⟩

end Embodies

end LiveNode

/--
Built trees are safe: whatever a builder accepts, each decorator has one child,
each parallel node has two children at least and a threshold within their number,
and no leaf has any.  However often the tree is set up, ticked and cleared, on
whatever blackboards, its nodes stay as they were built, and each keeps its place
in the trace.  No child is ever missed; only a loop that goes on until a failure
can go beyond its bound.
-/
theorem built_trees_are_safe [Blackboard β]
    (builder last : Builder)
    (spec : Spec μ β)
    (node : Node μ β)
    (built : builder.build spec = (.ok node, last)) :
    (∀ part ∈ node.nodes, part.kind.Admits part.children.length) ∧
      ∀ calls : List (LiveNode.Call β),
        (∃ live, (LiveNode.ofNode node).callAll calls = .ok live ∧
          live.node = node ∧ live.trace.Fits node ∧
          live.entries.map Prod.fst = node.nodes) ∨
        (LiveNode.ofNode node).callAll calls = .error .unbounded ∧
          ∃ part ∈ node.nodes, part.kind.IsEndless := by
  have apt := Builder.apt_of_build spec built
  refine ⟨apt, fun calls => ?_⟩
  have blank : (LiveNode.ofNode node).Embodies node :=
    ⟨rfl, Trace.blank_fits node⟩
  have endless : ∀ part ∈ node.nodes, part.kind.IsEndless →
      ∃ part ∈ node.nodes, part.kind.IsEndless :=
    fun part among loops => ⟨part, among, loops⟩
  rcases blank.callAll apt endless calls with
    ⟨live, called, embodies⟩ | exceeded
  · exact .inl ⟨live, called, embodies.same, embodies.fits, embodies.entries⟩
  · exact .inr exceeded

/-- A race of two leaves, a loop and a question, one after the other. -/
def exampleSpec : Spec Nat Workbench :=
  .sequence "Root"
    [.parallel "Race" 1
      [.ofLeaf "Left" (Workbench.player "left" #[.success, .failure]),
       .ofLeaf "Right" (Workbench.player "right" #[.running])],
     .untilFailure "Loop"
      (.ofLeaf "Turn" (Workbench.player "turn" #[.success, .failure])),
     .invert "Not" (.ofLeaf "Lamp" (Workbench.checker "lamp"))]

/-- It is set up and ticked on one workbench, and after it was cleared it is
ticked on another one. -/
def exampleCalls : List (LiveNode.Call Workbench) :=
  [.setup (.new (.ofSeed 0) none), .tick 3 (.new (.ofSeed 0) none), .clear,
   .tick 3 (.new (.ofSeed 1) none)]

theorem exampleCalls_end :
    exampleSpec.build.toOption.map
        (fun node => ((LiveNode.ofNode node).callAll exampleCalls).isOk) =
      some true := by
  decide +kernel

/-- The bound of these ticks is not reached. -/
theorem exampleCalls_answered {node : Node Nat Workbench} {last : Builder}
    (built : Builder.fresh.build exampleSpec = (.ok node, last)) :
    (LiveNode.ofNode node).callAll exampleCalls ≠ .error .unbounded := by
  intro exceeded
  have ends := exampleCalls_end
  rw [Spec.build, built] at ends
  have answered : ((LiveNode.ofNode node).callAll exampleCalls).isOk = true :=
    Option.some.inj ends
  rw [exceeded] at answered
  cases answered

theorem built_trees_are_safe_of_example :
    ∃ node last live,
      Builder.fresh.build exampleSpec = (.ok node, last) ∧
      (∀ part ∈ node.nodes, part.kind.Admits part.children.length) ∧
      (LiveNode.ofNode node).callAll exampleCalls = .ok live ∧
      live.node = node ∧ live.trace.Fits node ∧
      live.entries.map Prod.fst = node.nodes := by
  obtain ⟨node, last, built⟩ : ∃ node last,
      Builder.fresh.build exampleSpec = (.ok node, last) :=
    ⟨_, _, rfl⟩
  obtain ⟨admits, safe⟩ :=
    built_trees_are_safe Builder.fresh last exampleSpec node built
  rcases safe exampleCalls with ⟨live, called, kept⟩ | ⟨exceeded, _⟩
  · exact ⟨node, last, live, built, admits, called, kept⟩
  · exact absurd exceeded (exampleCalls_answered built)

end Disclosure
