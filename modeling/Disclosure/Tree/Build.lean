import Disclosure.Tree.Basic

/-!
# Building trees

A builder checks the arity of every node of a specification and numbers the
nodes depth first, a node before its children.  One builder can build several
trees; its numbers never repeat, since a build that fails keeps those that it
has handed out.
-/

namespace Disclosure

/-- Why a specification cannot be built. -/
inductive BuildError where
  | leafWithChildren (node : String) (found : Nat)
  | decoratorArity (node : String) (found : Nat)
  | parallelTooFewChildren (node : String) (found : Nat)
  | parallelThreshold (node : String) (minSuccess children : Nat)
  deriving DecidableEq, Repr

namespace BuildError

def kind : BuildError → String
  | leafWithChildren .. => "LeafWithChildren"
  | decoratorArity .. => "DecoratorArity"
  | parallelTooFewChildren .. => "ParallelTooFewChildren"
  | parallelThreshold .. => "ParallelThreshold"

def message : BuildError → String
  | leafWithChildren node found =>
    "Leaf node '" ++ node ++ "' cannot have children (found "
      ++ toString found ++ ")"
  | decoratorArity node found =>
    "Decorator '" ++ node ++ "' needs exactly one child (found "
      ++ toString found ++ ")"
  | parallelTooFewChildren node found =>
    "Parallel node '" ++ node ++ "' needs at least 2 children (found "
      ++ toString found ++ ")"
  | parallelThreshold node minSuccess children =>
    "Parallel node '" ++ node ++ "' threshold " ++ toString minSuccess
      ++ " outside [1, " ++ toString children ++ "]"

end BuildError

namespace Kind

variable {μ β : Type}

/-- What is wrong with a node of this kind that has so many children. -/
def arityError? (name : String) (children : Nat) :
    Kind μ β → Option BuildError
  | sequence => none
  | fallback => none
  | parallel minSuccess =>
    if children < 2 then some (.parallelTooFewChildren name children)
    else if minSuccess = 0 ∨ children < minSuccess then
      some (.parallelThreshold name minSuccess children)
    else none
  | decorator _ =>
    if children = 1 then none else some (.decoratorArity name children)
  | leaf _ =>
    if children = 0 then none else some (.leafWithChildren name children)

end Kind

/-- Hands out node numbers; `issued` is the last one that was handed out. -/
structure Builder where
  issued : UInt64
  deriving DecidableEq, Repr

namespace Builder

variable {μ β : Type}

/-- A builder that has handed out no number yet. -/
def fresh : Builder := ⟨0⟩

/-- The builder after one more number. -/
def next (builder : Builder) : Builder := ⟨builder.issued + 1⟩

mutual

/-- Build a specification; the builder is as used up as the build went. -/
def build (builder : Builder) :
    Spec μ β → Except BuildError (Node μ β) × Builder
  | .node _ name kind children =>
    match kind.arityError? name children.length with
    | some error => (.error error, builder)
    | none =>
      match buildList builder.next children with
      | (.error error, last) => (.error error, last)
      | (.ok children, last) =>
        (.ok (.node builder.next.issued name kind children), last)

/-- Build several specifications from left to right, up to the first error. -/
def buildList (builder : Builder) :
    List (Spec μ β) → Except BuildError (List (Node μ β)) × Builder
  | [] => (.ok [], builder)
  | spec :: specs =>
    match build builder spec with
    | (.error error, last) => (.error error, last)
    | (.ok node, last) =>
      match buildList last specs with
      | (.error error, last) => (.error error, last)
      | (.ok nodes, last) => (.ok (node :: nodes), last)

end

end Builder

namespace Spec

variable {μ β : Type}

/-- Build with a builder of its own. -/
def build (spec : Spec μ β) : Except BuildError (Node μ β) :=
  (Builder.fresh.build spec).1

end Spec

end Disclosure
