import Disclosure.Tree.Policy

/-!
# Behavior trees

A tree is a named node of some kind over an ordered list of children.  Its nodes
carry an identity of type `ι`: a specification has none (`Spec`), a built tree
has numbers (`Node`).  What changes from tick to tick is kept apart, in a
`Trace`; a tree itself never changes.

A leaf acts on a blackboard of type `β` and may remember something of type `μ`
from one tick to the next.
-/

namespace Disclosure

/-- Single-child transforms. -/
inductive Decorator where
  /-- Exchange success and failure. -/
  | invert
  /-- Tick the child, then succeed. -/
  | forceSuccess
  /-- Tick the child, then fail. -/
  | forceFailure
  /-- Tick the child, then report running. -/
  | forceRunning
  /-- All but failure is success. -/
  | runningIsSuccess
  /-- All but success is failure. -/
  | runningIsFailure
  /-- Tick up to `times` times in one go while the child fails. -/
  | retry (times : Nat) (reset : Bool)
  /-- Tick up to `times` times in one go while the child succeeds. -/
  | repeated (times : Nat) (reset : Bool)
  /-- Tick while the child succeeds; succeed when it fails. -/
  | untilFailure (reset : Bool)
  deriving DecidableEq, Repr

namespace Decorator

/-- Loops count the ticks of their child. -/
def isLoop : Decorator → Bool
  | retry .. => true
  | repeated .. => true
  | untilFailure _ => true
  | _ => false

/-- Whether the count starts from zero with every tick. -/
def resets : Decorator → Bool
  | retry _ reset => reset
  | repeated _ reset => reset
  | untilFailure reset => reset
  | _ => false

/-- The sign of the decorator in renderings. -/
def marker : Decorator → String
  | invert => "^"
  | forceSuccess => "S"
  | forceFailure => "F"
  | forceRunning => "R"
  | runningIsSuccess => "d"
  | runningIsFailure => "d"
  | retry .. => "l"
  | repeated .. => "l"
  | untilFailure _ => "l"

end Decorator

/-- What a leaf stands for. -/
inductive LeafKind where
  | action
  | condition
  | decision
  deriving DecidableEq, Repr

namespace LeafKind

/-- The sign of the leaf in renderings. -/
def marker : LeafKind → String
  | action => "a"
  | condition => "c"
  | decision => "z"

end LeafKind

/-- The behavior of a leaf. -/
structure Leaf (μ β : Type) where
  kind : LeafKind
  /-- What the leaf remembers before its first tick. -/
  memory : μ
  /-- Runs once before the first tick of the tree. -/
  setup : μ → β → μ × β
  /-- One tick of the leaf. -/
  act : μ → β → Status × μ × β

namespace Leaf

variable {μ β : Type}

/-- A leaf that leaves its memory alone and has nothing to set up. -/
def ofAct [Inhabited μ] (kind : LeafKind) (act : β → Status × β) :
    Leaf μ β where
  kind := kind
  memory := default
  setup memory board := (memory, board)
  act memory board :=
    let (status, board) := act board
    (status, memory, board)

end Leaf

/-- The kinds of node. -/
inductive Kind (μ β : Type) where
  /-- Tick the children in order until one does not succeed. -/
  | sequence
  /-- Tick the children in order until one does not fail. -/
  | fallback
  /-- Tick the children in random order until enough have succeeded. -/
  | parallel (minSuccess : Nat)
  | decorator (transform : Decorator)
  | leaf (behavior : Leaf μ β)

namespace Kind

variable {μ β : Type}

/-- The sign of the kind in renderings. -/
def marker : Kind μ β → String
  | sequence => ">"
  | fallback => "?"
  | parallel _ => "="
  | decorator transform => transform.marker
  | leaf behavior => behavior.kind.marker

/-- Leaves do the work, all other kinds only direct it. -/
def isLeaf : Kind μ β → Bool
  | leaf _ => true
  | _ => false

/-- Loop decorators keep a count. -/
def isLoop : Kind μ β → Bool
  | decorator transform => transform.isLoop
  | _ => false

end Kind

/-- A node with an identity, a name, a kind and children. -/
inductive Tree (ι μ β : Type) where
  | node (id : ι) (name : String) (kind : Kind μ β)
      (children : List (Tree ι μ β))

/-- The description of a tree, without identities. -/
abbrev Spec (μ β : Type) := Tree Unit μ β

/-- A built tree, each node with its number. -/
abbrev Node (μ β : Type) := Tree UInt64 μ β

namespace Tree

variable {ι μ β : Type}

def id : Tree ι μ β → ι
  | node id _ _ _ => id

def name : Tree ι μ β → String
  | node _ name _ _ => name

def kind : Tree ι μ β → Kind μ β
  | node _ _ kind _ => kind

def children : Tree ι μ β → List (Tree ι μ β)
  | node _ _ _ children => children

mutual

/-- The tree and all trees below it, depth first, a node before its children. -/
def nodes : Tree ι μ β → List (Tree ι μ β)
  | node id name kind children =>
    node id name kind children :: nodesOfList children

def nodesOfList : List (Tree ι μ β) → List (Tree ι μ β)
  | [] => []
  | tree :: trees => tree.nodes ++ nodesOfList trees

end

@[simp]
theorem nodesOfList_eq_flatMap (trees : List (Tree ι μ β)) :
    nodesOfList trees = trees.flatMap nodes := by
  induction trees with
  | nil => rfl
  | cons tree trees ih => rw [nodesOfList, List.flatMap_cons, ih]

def size (tree : Tree ι μ β) : Nat := tree.nodes.length

mutual

/-- The same tree without identities. -/
def erase : Tree ι μ β → Spec μ β
  | node _ name kind children => node () name kind (eraseList children)

def eraseList : List (Tree ι μ β) → List (Spec μ β)
  | [] => []
  | tree :: trees => tree.erase :: eraseList trees

end

@[simp]
theorem eraseList_eq_map (trees : List (Tree ι μ β)) :
    eraseList trees = trees.map erase := by
  induction trees with
  | nil => rfl
  | cons tree trees ih => rw [eraseList, List.map_cons, ih]

end Tree

namespace Node

variable {μ β : Type}

/-- The name with the number, which tells nodes of one name apart. -/
def label (node : Node μ β) : String :=
  node.name ++ "_" ++ toString node.id.toNat

end Node

/-! ## Writing specifications -/

namespace Spec

variable {μ β : Type}

/-- Succeeds when all children succeed. -/
def sequence (name : String) (children : List (Spec μ β)) : Spec μ β :=
  .node () name .sequence children

/-- Succeeds when any child succeeds. -/
def fallback (name : String) (children : List (Spec μ β)) : Spec μ β :=
  .node () name .fallback children

/-- Succeeds when enough children succeed, whichever come first. -/
def parallel (name : String) (minSuccess : Nat)
    (children : List (Spec μ β)) : Spec μ β :=
  .node () name (.parallel minSuccess) children

def decorate (name : String) (decorator : Decorator) (child : Spec μ β) :
    Spec μ β :=
  .node () name (.decorator decorator) [child]

/-- Turns the child's answer around. -/
def invert (name : String) (child : Spec μ β) : Spec μ β :=
  decorate name .invert child

/-- Succeeds after the child, whatever its answer. -/
def forceSuccess (name : String) (child : Spec μ β) : Spec μ β :=
  decorate name .forceSuccess child

/-- Fails after the child, whatever its answer. -/
def forceFailure (name : String) (child : Spec μ β) : Spec μ β :=
  decorate name .forceFailure child

/-- Ticks the child until it fails. -/
def untilFailure (name : String) (child : Spec μ β) : Spec μ β :=
  decorate name (.untilFailure true) child

def ofLeaf (name : String) (leaf : Leaf μ β) : Spec μ β :=
  .node () name (.leaf leaf) []

/-- A leaf that changes the blackboard. -/
def action [Inhabited μ] (name : String) (act : β → Status × β) : Spec μ β :=
  ofLeaf name (.ofAct .action act)

/-- A leaf that changes the blackboard and always succeeds. -/
def effect [Inhabited μ] (name : String) (change : β → β) : Spec μ β :=
  action name fun board => (.success, change board)

/-- A leaf that asks whether the blackboard has a property. -/
def condition [Inhabited μ] (name : String) (holds : β → Bool) : Spec μ β :=
  ofLeaf name (.ofAct .condition fun board => (.ofBool (holds board), board))

/-- A leaf that always succeeds and changes nothing. -/
def succeed [Inhabited μ] (name : String) : Spec μ β :=
  effect name fun board => board

/-- A leaf that has the decision of its name settled. -/
def decision [Inhabited μ] [Blackboard β] (name : String) (weight : Weight) :
    Spec μ β :=
  ofLeaf name (.ofAct .decision (Blackboard.decide ⟨name, weight⟩))

end Spec

end Disclosure
