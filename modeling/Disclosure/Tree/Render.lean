import Disclosure.Tree.Basic

/-!
# Renderings

Three pictures of a built tree: an indented outline, a Mermaid graph and a
Graphviz digraph.  The two graphs declare each node once and draw one edge for
each child.
-/

namespace Disclosure.Node

variable {μ β : Type}

/-- The sign of the kind and the name. -/
def title (node : Node μ β) : String := node.kind.marker ++ " " ++ node.name

/-- The name of the node in a graph. -/
def anchor (node : Node μ β) : String := "n" ++ toString node.id.toNat

/-! ## Outline -/

/-- One bar for each level. -/
def indent : Nat → String
  | 0 => ""
  | depth + 1 => " | " ++ indent depth

/-- The line of a node in the outline. -/
def outlineLine (depth : Nat) (node : Node μ β) : String :=
  indent depth ++ "(" ++ node.kind.marker ++ ") " ++ node.label

mutual

/-- The lines of the outline, each node before its children. -/
def outlineLines (depth : Nat) : Node μ β → List String
  | .node id name kind children =>
    outlineLine depth (.node id name kind children)
      :: outlineLinesOfList (depth + 1) children

def outlineLinesOfList (depth : Nat) : List (Node μ β) → List String
  | [] => []
  | node :: nodes =>
    outlineLines depth node ++ outlineLinesOfList depth nodes

end

/-- Lines as a text, each with a line end. -/
def unlines (lines : List String) : String :=
  String.join (lines.map (· ++ "\n"))

def toText (node : Node μ β) : String := unlines (outlineLines 0 node)

/-! ## Mermaid -/

def mermaidNode (node : Node μ β) : String :=
  "  " ++ node.anchor ++ "[\"" ++ node.title ++ "\"]"

def mermaidEdge (parent child : Node μ β) : String :=
  "  " ++ parent.anchor ++ " --> " ++ child.anchor

mutual

/-- What a node adds below its own declaration. -/
def mermaidBelow : Node μ β → List String
  | .node id name kind children =>
    mermaidChildren (.node id name kind children) children

/-- Declaration, edge and what is below, for one child after the other. -/
def mermaidChildren (parent : Node μ β) : List (Node μ β) → List String
  | [] => []
  | child :: children =>
    mermaidNode child :: mermaidEdge parent child :: mermaidBelow child
      ++ mermaidChildren parent children

end

def toMermaid (node : Node μ β) : String :=
  "\n".intercalate
    (["```mermaid", "graph TD", mermaidNode node] ++ mermaidBelow node
      ++ ["```"])

/-! ## Graphviz -/

/-- Declares a node; leaves are round. -/
def dotNode (node : Node μ β) : String :=
  "  " ++ node.anchor ++ " [label=\"" ++ node.title ++ "\", shape="
    ++ (if node.kind.isLeaf then "ellipse" else "box") ++ "];"

def dotEdge (parent child : Node μ β) : String :=
  "  " ++ parent.anchor ++ " -> " ++ child.anchor ++ ";"

mutual

/-- The lines of a node and of what is below it. -/
def dotLines : Node μ β → List String
  | .node id name kind children =>
    dotNode (.node id name kind children)
      :: dotChildren (.node id name kind children) children

/-- Edge and lines, for one child after the other. -/
def dotChildren (parent : Node μ β) : List (Node μ β) → List String
  | [] => []
  | child :: children =>
    dotEdge parent child :: dotLines child ++ dotChildren parent children

end

def toDot (node : Node μ β) : String :=
  unlines ("digraph bt \x7b" :: dotLines node ++ ["\x7d"])

end Disclosure.Node
