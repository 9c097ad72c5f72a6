import Disclosure.Tree.Tick

/-!
# Live trees

A live node is a built tree together with its trace.  A behavior tree adds the
blackboard that it works on, is set up before its first tick and knows how often
it was ticked.
-/

namespace Disclosure

/-- A built tree and what it remembers. -/
structure LiveNode (μ β : Type) where
  node : Node μ β
  trace : Trace μ

namespace LiveNode

variable {μ β : Type}

/-- A built tree that was never ticked. -/
def ofNode (node : Node μ β) : LiveNode μ β := ⟨node, .blank node⟩

/-- Every node with its part of the trace, depth first. -/
def entries (live : LiveNode μ β) : List (Node μ β × Trace μ) :=
  live.node.nodes.zip live.trace.nodes

/-- The last status of every node, depth first. -/
def statuses (live : LiveNode μ β) : List (Option Status) :=
  live.trace.nodes.map Trace.status

/-- The count of a node if it is a loop. -/
def loopCount? (entry : Node μ β × Trace μ) : Option Nat :=
  if entry.1.kind.isLoop then some entry.2.count else none

/-- The counts of all loops, depth first. -/
def loopCounts (live : LiveNode μ β) : List Nat :=
  live.entries.filterMap loopCount?

/-- The first node of the given name, depth first. -/
def find? (live : LiveNode μ β) (name : String) :
    Option (Node μ β × Trace μ) :=
  live.entries.find? fun entry => entry.1.name == name

/-- Run the setup of every leaf. -/
def setup (live : LiveNode μ β) (board : β) : LiveNode μ β × β :=
  let (trace, board) := live.node.setup live.trace board
  ({ live with trace }, board)

/-- Tick once. -/
def tick [Blackboard β] (bound : Nat) (live : LiveNode μ β) (board : β) :
    Except TickError (Step (LiveNode μ β) β) := do
  let step ← live.node.tick bound live.trace board
  return ⟨step.status, { live with trace := step.state }, step.board⟩

/-- Forget the statuses. -/
def clear (live : LiveNode μ β) : LiveNode μ β :=
  { live with trace := live.trace.clear }

end LiveNode

/-- A live tree bundled with the blackboard that it works on. -/
structure BehaviorTree (μ β : Type) where
  root : LiveNode μ β
  board : β
  isSetup : Bool
  status : Option Status
  ticks : UInt64

namespace BehaviorTree

variable {μ β : Type}

/-- A behavior tree that was never ticked. -/
def ofNode (node : Node μ β) (board : β) : BehaviorTree μ β where
  root := .ofNode node
  board := board
  isSetup := false
  status := none
  ticks := 0

/-- Build a specification and put it to work on a blackboard. -/
def ofSpec (spec : Spec μ β) (board : β) :
    Except BuildError (BehaviorTree μ β) := do
  return ofNode (← spec.build) board

/-- Run the setup of every leaf, once in the life of the tree. -/
def setup (tree : BehaviorTree μ β) : BehaviorTree μ β :=
  if tree.isSetup then tree
  else
    let (root, board) := tree.root.setup tree.board
    { tree with root, board, isSetup := true }

/-- Tick once, after a setup if there was none yet. -/
def tick [Blackboard β] (bound : Nat) (tree : BehaviorTree μ β) :
    Except TickError (Status × BehaviorTree μ β) := do
  let tree := tree.setup
  let step ← tree.root.tick bound tree.board
  return (step.status,
    { tree with
      root := step.state
      board := step.board
      status := some step.status
      ticks := tree.ticks + 1 })

/-- Change the blackboard between ticks. -/
def modify (change : β → β) (tree : BehaviorTree μ β) : BehaviorTree μ β :=
  { tree with board := change tree.board }

end BehaviorTree

end Disclosure
