import Disclosure.Proofs.Tree.Memoryless

/-!
# Hosting a specification

A specification is proper when every node of it obeys the rule of arity of its
kind and no leaf has anything to set up.  A proper specification can be built,
and what is built from it keeps its shape for life: a live node *hosts* a
specification when its node is a build of it and its trace has the shape of its
node.
-/

namespace Disclosure

variable {ι μ β : Type}

/-- Leaves of this kind have nothing to set up. -/
def Kind.NeedsNoSetup : Kind μ β → Prop
  | leaf behavior => ∀ memory board,
      behavior.setup memory board = (memory, board)
  | _ => True

namespace Tree

mutual

/-- Every node obeys its rule of arity, and no leaf has anything to set up. -/
def Proper : Tree ι μ β → Prop
  | node _ name kind children =>
    kind.arityError? name children.length = none ∧ kind.NeedsNoSetup ∧
      ProperList children

/-- Several proper trees. -/
def ProperList : List (Tree ι μ β) → Prop
  | [] => True
  | tree :: trees => tree.Proper ∧ ProperList trees

end

@[simp]
theorem properList_iff (trees : List (Tree ι μ β)) :
    ProperList trees ↔ ∀ tree ∈ trees, tree.Proper := by
  induction trees with
  | nil => simp [ProperList]
  | cons tree trees ih => simp [ProperList, ih]

end Tree

/-! ## Proper specifications -/

namespace Spec

@[simp]
theorem proper_sequence (name : String) (children : List (Spec μ β)) :
    (sequence name children).Proper ↔ ∀ child ∈ children, child.Proper := by
  simp [sequence, Tree.Proper, Kind.arityError?, Kind.NeedsNoSetup]

@[simp]
theorem proper_fallback (name : String) (children : List (Spec μ β)) :
    (fallback name children).Proper ↔ ∀ child ∈ children, child.Proper := by
  simp [fallback, Tree.Proper, Kind.arityError?, Kind.NeedsNoSetup]

theorem proper_parallel (name : String) {minSuccess : Nat}
    {children : List (Spec μ β)}
    (several : 2 ≤ children.length)
    (positive : 0 < minSuccess)
    (within : minSuccess ≤ children.length)
    (proper : ∀ child ∈ children, child.Proper) :
    (parallel name minSuccess children).Proper := by
  have noError :
      (Kind.parallel minSuccess : Kind μ β).arityError? name
        children.length = none := by
    simp only [Kind.arityError?]
    rw [if_neg (by omega), if_neg (by omega)]
  exact ⟨noError, trivial, (Tree.properList_iff children).mpr proper⟩

@[simp]
theorem proper_decorate (name : String) (transform : Decorator)
    (child : Spec μ β) :
    (decorate name transform child).Proper ↔ child.Proper := by
  simp [decorate, Tree.Proper, Kind.arityError?, Kind.NeedsNoSetup]

@[simp]
theorem proper_ofAct [Inhabited μ] (name : String) (kind : LeafKind)
    (act : β → Status × β) :
    (ofLeaf name (.ofAct kind act) : Spec μ β).Proper := by
  simp [ofLeaf, Leaf.ofAct, Tree.Proper, Kind.arityError?, Kind.NeedsNoSetup]

@[simp]
theorem proper_action [Inhabited μ] (name : String) (act : β → Status × β) :
    (action name act : Spec μ β).Proper :=
  proper_ofAct ..

@[simp]
theorem proper_effect [Inhabited μ] (name : String) (change : β → β) :
    (effect name change : Spec μ β).Proper :=
  proper_ofAct ..

@[simp]
theorem proper_condition [Inhabited μ] (name : String) (holds : β → Bool) :
    (condition name holds : Spec μ β).Proper :=
  proper_ofAct ..

@[simp]
theorem proper_decision [Inhabited μ] [Blackboard β] (name : String)
    (weight : Weight) :
    (decision name weight : Spec μ β).Proper :=
  proper_ofAct ..

end Spec

/-! ## Building -/

namespace Builder

mutual

/-- A proper specification can be built, and the build keeps its shape. -/
theorem build_of_proper (builder : Builder) :
    (spec : Spec μ β) → spec.Proper →
      ∃ node last, builder.build spec = (.ok node, last) ∧ node.erase = spec
  | .node _ name kind children, proper => by
    rw [Tree.Proper] at proper
    rcases proper with ⟨arity, _, properChildren⟩
    obtain ⟨nodes, last, built, erased⟩ :=
      buildList_of_proper builder.next children properChildren
    refine ⟨.node builder.next.issued name kind nodes, last, ?_, ?_⟩
    · rw [build, arity]
      simp only [built]
    · rw [Tree.erase, erased]

theorem buildList_of_proper (builder : Builder) :
    (specs : List (Spec μ β)) → Tree.ProperList specs →
      ∃ nodes last, builder.buildList specs = (.ok nodes, last) ∧
        Tree.eraseList nodes = specs
  | [], _ => ⟨[], builder, rfl, rfl⟩
  | spec :: specs, proper => by
    rw [Tree.ProperList] at proper
    obtain ⟨node, middle, built, erased⟩ :=
      build_of_proper builder spec proper.1
    obtain ⟨nodes, last, builtRest, erasedRest⟩ :=
      buildList_of_proper middle specs proper.2
    refine ⟨node :: nodes, last, ?_, ?_⟩
    · rw [buildList]
      simp only [built, builtRest]
    · rw [Tree.eraseList, erased, erasedRest]

end

end Builder

theorem Spec.build_of_proper {spec : Spec μ β} (proper : spec.Proper) :
    ∃ node, spec.build = .ok node ∧ node.erase = spec := by
  obtain ⟨node, last, built, erased⟩ :=
    Builder.fresh.build_of_proper spec proper
  refine ⟨node, ?_, erased⟩
  rw [Spec.build, built]

/-! ## Setting up -/

namespace Tree

mutual

/-- Setting a proper tree up leaves the blackboard alone. -/
theorem setup_of_proper :
    (tree : Tree ι μ β) → (trace : Trace μ) → (board : β) →
      tree.erase.Proper → (tree.setup trace board).2 = board
  | .node id name kind children, .node status count memory traces, board,
      proper => by
    rw [erase, Proper] at proper
    have kindSetup : (kind.setup memory board).2 = board := by
      cases kind with
      | leaf behavior =>
        have idle := proper.2.1 (memory.getD behavior.memory) board
        simp only [Kind.setup, idle]
      | sequence | fallback | parallel minSuccess | decorator transform => rfl
    simp only [setup, kindSetup]
    exact setupList_of_proper children traces board proper.2.2

theorem setupList_of_proper :
    (trees : List (Tree ι μ β)) → (traces : List (Trace μ)) → (board : β) →
      ProperList (eraseList trees) → (setupList trees traces board).2 = board
  | [], _, _, _ => rfl
  | _ :: _, [], _, _ => rfl
  | tree :: trees, trace :: traces, board, proper => by
    rw [eraseList, ProperList] at proper
    have kept := setup_of_proper tree trace board proper.1
    simp only [setupList, kept]
    exact setupList_of_proper trees traces board proper.2

end

end Tree

/-! ## Live nodes -/

namespace LiveNode

/-- The node is a build of the specification, and its trace has its shape. -/
structure Hosts (live : LiveNode μ β) (spec : Spec μ β) : Prop where
  erased : live.node.erase = spec
  fits : live.trace.Fits live.node

theorem hosts_ofNode {node : Node μ β} {spec : Spec μ β}
    (erased : node.erase = spec) :
    (ofNode node).Hosts spec :=
  ⟨erased, Trace.blank_fits node⟩

theorem Hosts.setup {live : LiveNode μ β} {spec : Spec μ β}
    (hosts : live.Hosts spec)
    (proper : spec.Proper)
    (board : β) :
    (live.setup board).2 = board ∧ (live.setup board).1.Hosts spec := by
  have properNode : live.node.erase.Proper := hosts.erased ▸ proper
  have kept := Tree.setup_of_proper live.node live.trace board properNode
  have fits := Tree.setup_fits live.node live.trace board hosts.fits
  exact ⟨kept, hosts.erased, fits⟩

/-- What a specification does when it is run, a live node does that hosts it. -/
theorem Hosts.tick [Blackboard β] {live : LiveNode Unit β}
    {spec : Spec Unit β}
    (hosts : live.Hosts spec)
    {bound : Nat} {board : β} {status : Status} {after : β}
    (ran : spec.run bound board = .ok (status, after)) :
    ∃ next : LiveNode Unit β,
      live.tick bound board = .ok ⟨status, next, after⟩ ∧
        next.Hosts spec := by
  have follows :=
    Tree.tick_follows_run bound live.node live.trace board hosts.fits
  have nodeRan : live.node.run bound board = .ok (status, after) := by
    rw [← Tree.run_erase, hosts.erased]
    exact ran
  rw [nodeRan] at follows
  cases ticked : live.node.tick bound live.trace board with
  | error found =>
    rw [ticked] at follows
    exact follows.elim
  | ok step =>
    rw [ticked] at follows
    rcases follows with ⟨sameStatus, sameBoard, fits⟩
    refine ⟨{ live with trace := step.state }, ?_, hosts.erased, fits⟩
    simp only [LiveNode.tick, ticked]
    rw [← sameStatus, ← sameBoard]
    rfl

end LiveNode

namespace BehaviorTree

/-- A proper specification can be put to work on any blackboard. -/
theorem exists_hosting {spec : Spec μ β} (proper : spec.Proper) (board : β) :
    ∃ tree : BehaviorTree μ β, tree.root.Hosts spec ∧ tree.board = board := by
  rcases Spec.build_of_proper proper with ⟨node, _, erased⟩
  exact ⟨.ofNode node board, LiveNode.hosts_ofNode erased, rfl⟩

/-- Setting up keeps the blackboard and what the root hosts. -/
theorem setup_of_hosts {tree : BehaviorTree μ β} {spec : Spec μ β}
    (hosts : tree.root.Hosts spec)
    (proper : spec.Proper) :
    tree.setup.board = tree.board ∧ tree.setup.root.Hosts spec := by
  rw [setup]
  split
  · exact ⟨rfl, hosts⟩
  · exact hosts.setup proper tree.board

/-- What the specification does when it is run, a tick of the tree does. -/
theorem tick_of_hosts [Blackboard β] {tree : BehaviorTree Unit β}
    {spec : Spec Unit β}
    (hosts : tree.root.Hosts spec)
    (proper : spec.Proper)
    {bound : Nat} {status : Status} {after : β}
    (ran : spec.run bound tree.board = .ok (status, after)) :
    ∃ next : BehaviorTree Unit β, tree.tick bound = .ok (status, next) ∧
      next.root.Hosts spec ∧ next.board = after := by
  rcases setup_of_hosts hosts proper with ⟨sameBoard, hostsStill⟩
  rw [← sameBoard] at ran
  rcases hostsStill.tick ran with ⟨root, ticked, hostsThen⟩
  refine ⟨
    { tree.setup with
      root
      board := after
      status := some status
      ticks := tree.setup.ticks + 1 }, ?_, hostsThen, rfl⟩
  simp only [tick, ticked]
  rfl

/-- What can be read off a run of the specification, can be read off the tree
after the tick. -/
theorem exists_tick_of_run [Blackboard β] {tree : BehaviorTree Unit β}
    {spec : Spec Unit β} {α : Type} {read : Status × β → α} {value : α}
    (hosts : tree.root.Hosts spec)
    (proper : spec.Proper)
    {bound : Nat}
    (reads : (spec.run bound tree.board).toOption.map read = some value) :
    ∃ (status : Status) (last : BehaviorTree Unit β),
      spec.run bound tree.board = .ok (status, last.board) ∧
      tree.tick bound = .ok (status, last) ∧
      read (status, last.board) = value := by
  cases ran : spec.run bound tree.board with
  | error error =>
    rw [ran] at reads
    cases reads
  | ok result =>
    obtain ⟨status, after⟩ := result
    rw [ran] at reads
    obtain ⟨last, ticked, _, rfl⟩ := tick_of_hosts hosts proper ran
    exact ⟨status, last, rfl, ticked, Option.some.inj reads⟩

end BehaviorTree

end Disclosure
