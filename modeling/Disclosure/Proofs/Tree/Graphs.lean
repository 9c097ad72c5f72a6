import Disclosure.Proofs.Tree.Numbering
import Disclosure.Proofs.Tree.Outline

/-!
# What graphs show

Two graph languages draw a tree.  Each writes one line for a node and one for an edge,
and mixes them in an order of its own; but the nodes alone are those of the tree, depth
first and a node before its children, and the edges alone are those to the children, in
the order of the children.  Where no name goes on in another line, the lines tell of
these nodes and edges and of nothing else.
-/

namespace Disclosure

open Text

variable {μ β ν γ : Type}

/-! ## Graph languages -/

/-- What stands for a node in a graph. -/
def anchor (id : UInt64) : String := "n" ++ toString id.toNat

/-- The sign of the kind and the name. -/
def title (sign : Sign) : String := sign.marker ++ " " ++ sign.name

/-- How a graph language writes what comes before and behind the title of a node, what
comes between and behind the ends of an edge, and what comes around all lines. -/
structure GraphForm where
  opening : String
  closing : String → String
  link : String
  stop : String
  around : List String → String

namespace GraphForm

variable {form : GraphForm} {lines more : List String} {signs others : List Sign}
  {edges arrows : List (UInt64 × UInt64)}

/-- The line of a node. -/
def declaration (form : GraphForm) (sign : Sign) : String :=
  "  " ++ anchor sign.id ++ form.opening ++ title sign ++ form.closing sign.marker

/-- The line of an edge. -/
def arrow (form : GraphForm) (parent child : UInt64) : String :=
  "  " ++ anchor parent ++ form.link ++ anchor child ++ form.stop

/-- The lines declare these nodes and draw these edges, each in their order. -/
inductive Draws (form : GraphForm) :
    List String → List Sign → List (UInt64 × UInt64) → Prop where
  | done : Draws form [] [] []
  | node (sign : Sign) {lines : List String} {signs : List Sign}
      {edges : List (UInt64 × UInt64)}
      (rest : Draws form lines signs edges) :
    Draws form (form.declaration sign :: lines) (sign :: signs) edges
  | edge (parent child : UInt64) {lines : List String} {signs : List Sign}
      {edges : List (UInt64 × UInt64)}
      (rest : Draws form lines signs edges) :
    Draws form (form.arrow parent child :: lines) signs ((parent, child) :: edges)

theorem Draws.append (first : form.Draws lines signs edges)
    (second : form.Draws more others arrows) :
    form.Draws (lines ++ more) (signs ++ others) (edges ++ arrows) := by
  induction first with
  | done => exact second
  | node sign _ ih => exact .node sign ih
  | edge parent child _ ih => exact .edge parent child ih

/-- The text shows a graph of these nodes and edges. -/
def Shows (form : GraphForm) (text : String) (signs : List Sign)
    (edges : List (UInt64 × UInt64)) : Prop :=
  ∃ lines, text = form.around lines ∧ form.Draws lines signs edges

/-! ## Reading lines back -/

theorem toList_anchor (id : UInt64) :
    (anchor id).toList = 'n' :: Nat.toDigits 10 id.toNat := by
  simp [anchor, Nat.toString_eq_repr, Nat.toList_repr]

theorem toList_title (sign : Sign) :
    (title sign).toList = sign.marker.toList ++ ' ' :: sign.name.toList := by
  simp [title]

/-- The number goes up to the first character that is no digit. -/
theorem anchor_append_inj {id other : UInt64} {tail rest : List Char}
    (ends : ∀ char ∈ tail.head?, char.isDigit = false)
    (endsToo : ∀ char ∈ rest.head?, char.isDigit = false)
    (same : (anchor id).toList ++ tail = (anchor other).toList ++ rest) :
    id = other ∧ tail = rest := by
  rw [toList_anchor, toList_anchor] at same
  rcases number_append_inj ends endsToo (List.cons.inj same).2 with ⟨number, behind⟩
  exact ⟨UInt64.toNat_inj.mp number, behind⟩

/-- The name goes up to what follows, which the sign of the kind determines. -/
theorem title_append_inj {sign other : Sign} {tail rest : List Char}
    (ends : sign.marker = other.marker → tail = rest)
    (same : (title sign).toList ++ tail = (title other).toList ++ rest) :
    sign.marker = other.marker ∧ sign.name = other.name := by
  rw [toList_title, toList_title, List.append_assoc, List.append_assoc] at same
  rcases Sign.marker_append_inj same with ⟨marker, names⟩
  rw [List.cons_append, List.cons_append, List.cons.injEq, ends marker] at names
  exact ⟨marker, String.toList_inj.mp (List.append_cancel_right names.2)⟩

theorem oneLine_anchor (id : UInt64) : OneLine (anchor id) := by
  have digits := not_mem_toDigits (show '\n'.isDigit = false by decide) id.toNat
  rw [OneLine, toList_anchor]
  simp [digits]

theorem oneLine_title {sign : Sign} (name : OneLine sign.name) :
    OneLine (title sign) := by
  simp +decide [title, oneLine_append, sign.oneLine_marker, name]

/-- The text begins with a character that is no digit. -/
def EndsNumber (text : String) : Prop :=
  text.toList.head?.map Char.isDigit = some false

instance (text : String) : Decidable (EndsNumber text) :=
  inferInstanceAs (Decidable (_ = _))

theorem EndsNumber.head {text : String} (ends : EndsNumber text) (tail : List Char) :
    ∀ char ∈ (text.toList ++ tail).head?, char.isDigit = false := by
  rw [EndsNumber] at ends
  cases chars : text.toList with
  | nil => simp [chars] at ends
  | cons first rest =>
    intro char found
    cases found
    simpa [chars] using ends

/-- Nodes and edges can be read off their lines, and lines off the text. -/
structure Legible (form : GraphForm) : Prop where
  opening : EndsNumber form.opening
  link : EndsNumber form.link
  stop : ∀ char ∈ form.stop.toList.head?, char.isDigit = false
  apart : ∀ name number : List Char,
    form.opening.toList ++ name ≠ form.link.toList ++ number
  oneLine : ∀ marker,
    OneLine form.opening ∧ OneLine (form.closing marker) ∧ OneLine form.link ∧
      OneLine form.stop
  around_inj : ∀ lines others, (∀ line ∈ lines, OneLine line) →
    (∀ line ∈ others, OneLine line) → form.around lines = form.around others →
      lines = others

namespace Legible

theorem declaration_inj (legible : form.Legible) {sign other : Sign}
    (same : form.declaration sign = form.declaration other) : sign = other := by
  have chars := congrArg String.toList same
  simp only [declaration, String.toList_append, List.append_assoc] at chars
  rcases anchor_append_inj (legible.opening.head _) (legible.opening.head _)
    (List.append_cancel_left chars) with ⟨id, behind⟩
  rcases title_append_inj (fun marker => by rw [marker])
    (List.append_cancel_left behind) with ⟨marker, name⟩
  exact Sign.ext_parts id marker name

theorem arrow_inj (legible : form.Legible) {parent child source target : UInt64}
    (same : form.arrow parent child = form.arrow source target) :
    parent = source ∧ child = target := by
  have chars := congrArg String.toList same
  simp only [arrow, String.toList_append, List.append_assoc] at chars
  rcases anchor_append_inj (legible.link.head _) (legible.link.head _)
    (List.append_cancel_left chars) with ⟨first, behind⟩
  exact ⟨first, (anchor_append_inj legible.stop legible.stop
    (List.append_cancel_left behind)).1⟩

theorem declaration_ne_arrow (legible : form.Legible) (sign : Sign)
    (parent child : UInt64) : form.declaration sign ≠ form.arrow parent child := by
  intro same
  have chars := congrArg String.toList same
  simp only [declaration, arrow, String.toList_append, List.append_assoc] at chars
  exact legible.apart _ _ (anchor_append_inj (legible.opening.head _)
    (legible.link.head _) (List.append_cancel_left chars)).2

theorem oneLine_declaration (legible : form.Legible) {sign : Sign}
    (name : OneLine sign.name) : OneLine (form.declaration sign) := by
  rcases legible.oneLine sign.marker with ⟨opening, closing, _⟩
  simp +decide [declaration, oneLine_append, oneLine_anchor, oneLine_title name,
    opening, closing]

theorem oneLine_arrow (legible : form.Legible) (parent child : UInt64) :
    OneLine (form.arrow parent child) := by
  rcases legible.oneLine "" with ⟨_, _, link, stop⟩
  simp +decide [arrow, oneLine_append, oneLine_anchor, link, stop]

theorem draws_unique (legible : form.Legible) (first : form.Draws lines signs edges)
    (second : form.Draws lines others arrows) : signs = others ∧ edges = arrows := by
  induction first generalizing others arrows with
  | done =>
    cases second
    exact ⟨rfl, rfl⟩
  | node sign rest ih =>
    generalize written : form.declaration sign = line at second
    cases second with
    | node other restToo =>
      rcases ih restToo with ⟨same, sameEdges⟩
      exact ⟨by rw [legible.declaration_inj written, same], sameEdges⟩
    | edge parent child restToo =>
      exact absurd written (legible.declaration_ne_arrow _ _ _)
  | edge parent child rest ih =>
    generalize written : form.arrow parent child = line at second
    cases second with
    | node other restToo =>
      exact absurd written.symm (legible.declaration_ne_arrow _ _ _)
    | edge source target restToo =>
      rcases ih restToo with ⟨same, sameEdges⟩
      rcases legible.arrow_inj written with ⟨sameParent, sameChild⟩
      exact ⟨same, by rw [sameEdges, sameParent, sameChild]⟩

theorem oneLine_of_draws (legible : form.Legible) (draws : form.Draws lines signs edges)
    (names : ∀ sign ∈ signs, OneLine sign.name) : ∀ line ∈ lines, OneLine line := by
  induction draws with
  | done => exact List.forall_mem_nil _
  | node sign rest ih =>
    rcases List.forall_mem_cons.mp names with ⟨here, later⟩
    exact List.forall_mem_cons.mpr ⟨legible.oneLine_declaration here, ih later⟩
  | edge parent child rest ih =>
    exact List.forall_mem_cons.mpr ⟨legible.oneLine_arrow parent child, ih names⟩

/-- A text shows one graph at most, if no name goes on in another line. -/
theorem shows_unique (legible : form.Legible) {text : String}
    (first : form.Shows text signs edges) (second : form.Shows text others arrows)
    (names : ∀ sign ∈ signs, OneLine sign.name)
    (namesToo : ∀ sign ∈ others, OneLine sign.name) :
    signs = others ∧ edges = arrows := by
  rcases first with ⟨lines, rfl, draws⟩
  rcases second with ⟨more, same, drawsToo⟩
  have sameLines := legible.around_inj lines more
    (legible.oneLine_of_draws draws names)
    (legible.oneLine_of_draws drawsToo namesToo) same
  subst sameLines
  exact legible.draws_unique draws drawsToo

end Legible

/-! ## The two languages -/

/-- Mermaid graphs. -/
def mermaid : GraphForm where
  opening := "[\""
  closing _ := "\"]"
  link := " --> "
  stop := ""
  around lines := "\n".intercalate (["```mermaid", "graph TD"] ++ lines ++ ["```"])

/-- Leaves are round. -/
def outline (marker : String) : String :=
  if ["a", "c", "z"].contains marker then "ellipse" else "box"

/-- Graphviz digraphs. -/
def dot : GraphForm where
  opening := " [label=\""
  closing marker := "\", shape=" ++ outline marker ++ "];"
  link := " -> "
  stop := ";"
  around lines := Node.unlines ("digraph bt \x7b" :: lines ++ ["\x7d"])

theorem legible_mermaid : mermaid.Legible where
  opening := by decide
  link := by decide
  stop := nofun
  apart name number := by simp [mermaid]
  oneLine _ := ⟨by decide, show OneLine "\"]" by decide, by decide, by decide⟩
  around_inj lines others each eachToo same := by
    have fence : ∀ line ∈ ["```mermaid", "graph TD"], OneLine line := by decide
    have last : ∀ line ∈ ["```"], OneLine line := by decide
    have whole (inside : List String) (each : ∀ line ∈ inside, OneLine line) :
        ∀ line ∈ ["```mermaid", "graph TD"] ++ inside ++ ["```"], OneLine line :=
      List.forall_mem_append.mpr ⟨List.forall_mem_append.mpr ⟨fence, each⟩, last⟩
    have sameLines := lines_inj (by simp) (by simp) (whole lines each)
      (whole others eachToo) same
    exact List.append_cancel_left (List.append_cancel_right sameLines)

theorem legible_dot : dot.Legible where
  opening := by decide
  link := by decide
  stop := by simp [dot]
  apart name number := by simp [dot]
  oneLine marker := by
    have shape : OneLine (outline marker) := by
      rw [outline]
      split <;> decide
    simp +decide [dot, oneLine_append, shape]
  around_inj lines others each eachToo same := by
    have whole (inside : List String) (each : ∀ line ∈ inside, OneLine line) :
        ∀ line ∈ "digraph bt \x7b" :: inside ++ ["\x7d"], OneLine line :=
      List.forall_mem_append.mpr
        ⟨List.forall_mem_cons.mpr ⟨by decide, each⟩, by decide⟩
    have sameLines := Node.unlines_inj (whole lines each) (whole others eachToo) same
    exact (List.cons.inj (List.append_cancel_right sameLines)).2

end GraphForm

/-! ## The graphs of a tree -/

namespace Node

mutual

/-- The edges to the nodes below, as numbers, in the order of these nodes. -/
def edges : Node μ β → List (UInt64 × UInt64)
  | .node id _ _ children => edgesOfList id children

def edgesOfList (parent : UInt64) : List (Node μ β) → List (UInt64 × UInt64)
  | [] => []
  | child :: children =>
    (parent, child.id) :: child.edges ++ edgesOfList parent children

end

theorem isLeaf_eq (kind : Kind μ β) :
    kind.isLeaf = ["a", "c", "z"].contains kind.marker := by
  cases kind with
  | decorator transform => cases transform <;> rfl
  | leaf behavior =>
    rw [Kind.marker]
    cases behavior.kind <;> rfl
  | _ => rfl

theorem mermaidNode_eq (node : Node μ β) :
    mermaidNode node = GraphForm.mermaid.declaration node.sign := rfl

theorem mermaidEdge_eq (parent child : Node μ β) :
    mermaidEdge parent child = GraphForm.mermaid.arrow parent.id child.id :=
  (String.append_empty ..).symm

theorem dotNode_eq (node : Node μ β) :
    dotNode node = GraphForm.dot.declaration node.sign := by
  rw [dotNode, isLeaf_eq]
  simp only [GraphForm.declaration, GraphForm.dot, String.append_assoc]
  rfl

theorem dotEdge_eq (parent child : Node μ β) :
    dotEdge parent child = GraphForm.dot.arrow parent.id child.id := rfl

theorem nodes_eq (node : Node μ β) :
    node.nodes = node :: Tree.nodesOfList node.children := by
  cases node
  rw [Tree.nodes]
  rfl

mutual

theorem mermaidBelow_draws :
    (node : Node μ β) →
      GraphForm.mermaid.Draws (mermaidBelow node)
        ((Tree.nodesOfList node.children).map sign) node.edges
  | .node id name kind children => by
    rw [mermaidBelow, edges]
    exact mermaidChildren_draws (.node id name kind children) children

theorem mermaidChildren_draws (parent : Node μ β) :
    (children : List (Node μ β)) →
      GraphForm.mermaid.Draws (mermaidChildren parent children)
        ((Tree.nodesOfList children).map sign) (edgesOfList parent.id children)
  | [] => .done
  | child :: children => by
    have below := mermaidBelow_draws child
    have later := mermaidChildren_draws parent children
    rw [mermaidChildren, edgesOfList, Tree.nodesOfList, List.map_append, nodes_eq,
      List.map_cons, mermaidNode_eq, mermaidEdge_eq]
    exact .node _ (.edge _ _ (below.append later))

end

mutual

theorem dotLines_draws :
    (node : Node μ β) →
      GraphForm.dot.Draws (dotLines node) (node.nodes.map sign) node.edges
  | .node id name kind children => by
    have below := dotChildren_draws (.node id name kind children) children
    rw [dotLines, nodes_eq, List.map_cons, edges, dotNode_eq]
    exact .node _ below

theorem dotChildren_draws (parent : Node μ β) :
    (children : List (Node μ β)) →
      GraphForm.dot.Draws (dotChildren parent children)
        ((Tree.nodesOfList children).map sign) (edgesOfList parent.id children)
  | [] => .done
  | child :: children => by
    have below := dotLines_draws child
    have later := dotChildren_draws parent children
    rw [dotChildren, edgesOfList, Tree.nodesOfList, List.map_append, dotEdge_eq]
    exact .edge _ _ (below.append later)

end

theorem toMermaid_shows (node : Node μ β) :
    GraphForm.mermaid.Shows node.toMermaid (node.nodes.map sign) node.edges := by
  refine ⟨mermaidNode node :: mermaidBelow node, rfl, ?_⟩
  rw [nodes_eq, List.map_cons, mermaidNode_eq]
  exact .node _ (mermaidBelow_draws node)

theorem toDot_shows (node : Node μ β) :
    GraphForm.dot.Shows node.toDot (node.nodes.map sign) node.edges :=
  ⟨dotLines node, rfl, dotLines_draws node⟩

/-- The edges of a tree lead from each node to each of its children, and come in the
order of the nodes that they lead to. -/
structure Links (node : Node μ β) (edges : List (UInt64 × UInt64)) : Prop where
  pairs : edges.Perm (node.nodes.flatMap fun parent =>
    parent.children.map fun child => (parent.id, child.id))
  order : edges.map Prod.snd = (node.nodes.map Tree.id).tail

mutual

theorem edges_pairs :
    (node : Node μ β) →
      node.edges.Perm (node.nodes.flatMap fun parent =>
        parent.children.map fun child => (parent.id, child.id))
  | .node id name kind children => by
    rw [edges, Tree.nodes, List.flatMap_cons]
    exact edgesOfList_pairs id children

theorem edgesOfList_pairs (id : UInt64) :
    (children : List (Node μ β)) →
      (edgesOfList id children).Perm
        ((children.map fun child => (id, child.id)) ++
          (Tree.nodesOfList children).flatMap fun parent =>
            parent.children.map fun child => (parent.id, child.id))
  | [] => .nil
  | child :: children => by
    rw [edgesOfList, Tree.nodesOfList, List.flatMap_append, List.map_cons,
      List.cons_append, List.cons_append]
    have both := (edges_pairs child).append (edgesOfList_pairs id children)
    exact .cons _ (both.trans (List.perm_append_comm_assoc ..))

end

mutual

theorem edges_order :
    (node : Node μ β) →
      node.edges.map Prod.snd = (Tree.nodesOfList node.children).map Tree.id
  | .node id name kind children => by
    rw [edges]
    exact edgesOfList_order id children

theorem edgesOfList_order (id : UInt64) :
    (children : List (Node μ β)) →
      (edgesOfList id children).map Prod.snd =
        (Tree.nodesOfList children).map Tree.id
  | [] => rfl
  | child :: children => by
    rw [edgesOfList, Tree.nodesOfList, List.cons_append, List.map_cons, List.map_append,
      List.map_append, edges_order child, edgesOfList_order id children, nodes_eq,
      List.map_cons, List.cons_append]

end

theorem links_edges (node : Node μ β) : node.Links node.edges where
  pairs := edges_pairs node
  order := by
    rw [nodes_eq, List.map_cons]
    exact edges_order node

/-- The text shows the nodes of the tree and these edges, and it shows nothing else if no
name goes on in another line. -/
structure DrawnAs (node : Node μ β) (form : GraphForm) (text : String)
    (edges : List (UInt64 × UInt64)) : Prop where
  shown : form.Shows text (node.nodes.map sign) edges
  alone : node.OneLineNames → ∀ signs arrows, (∀ sign ∈ signs, OneLine sign.name) →
    form.Shows text signs arrows → signs = node.nodes.map sign ∧ arrows = edges

theorem drawnAs_of_shows {node : Node μ β} {form : GraphForm} {text : String}
    {edges : List (UInt64 × UInt64)} (legible : form.Legible)
    (shown : form.Shows text (node.nodes.map sign) edges) :
    node.DrawnAs form text edges where
  shown := shown
  alone names signs arrows clean shownToo := by
    refine legible.shows_unique shownToo shown clean fun sign among => ?_
    rcases List.mem_map.mp among with ⟨part, member, rfl⟩
    exact names part member

end Node

/-- No number is given twice in one build. -/
theorem Builder.nodup_of_build {builder last : Builder} {spec : Spec μ β}
    {node : Node μ β} (room : builder.issued.toNat + spec.size < 2 ^ 64)
    (built : builder.build spec = (.ok node, last)) :
    (node.nodes.map Tree.id).Nodup := by
  have enough : builder.issued.toNat + ([spec].map Tree.size).sum < 2 ^ 64 := by
    simpa using room
  have distinct := nodup_buildEach enough
  simpa [buildEach, built, numbersOf] using distinct

/--
Renderings lose nothing.  If no name goes on in another line, two trees have the same
outline if and only if they have the same shape and, at each node, the same sign of the
kind, the same name and the same number.  Both graphs of a tree declare all its nodes,
depth first and a node before its children, and draw all edges to children, in the order
of the children; and if no name goes on in another line, their texts can be read in no
other way.  The numbers that a builder has given tell the nodes apart.
-/
theorem renderings_lose_nothing (node : Node μ β) :
    (∀ (ν γ : Type) (other : Node ν γ), node.OneLineNames → other.OneLineNames →
      (node.toText = other.toText ↔ node.sketch = other.sketch)) ∧
    (∃ edges, node.Links edges ∧
      node.DrawnAs .mermaid node.toMermaid edges ∧
      node.DrawnAs .dot node.toDot edges) ∧
    ∀ (builder last : Builder) (spec : Spec μ β),
      builder.issued.toNat + spec.size < 2 ^ 64 →
      builder.build spec = (.ok node, last) → (node.nodes.map Tree.id).Nodup :=
  ⟨fun _ _ _ => Node.toText_eq_iff,
    ⟨node.edges, node.links_edges,
      Node.drawnAs_of_shows GraphForm.legible_mermaid node.toMermaid_shows,
      Node.drawnAs_of_shows GraphForm.legible_dot node.toDot_shows⟩,
    fun _ _ _ => Builder.nodup_of_build⟩

/-- A leaf that does nothing. -/
def idleNode (id : UInt64) (name : String) : Node Unit Unit :=
  .node id name (.leaf (.ofAct .action fun board => (.success, board))) []

/-- A tree whose names look like parts of its renderings. -/
def maskedNode : Node Unit Unit :=
  .node 1 "Plan_1" .sequence
    [.node 2 ") Try_2" .fallback [idleNode 3 "n1 --> n2", idleNode 4 "n3[\"a"],
     idleNode 5 " | (a) Do"]

/-- The same nodes in another shape. -/
def regroupedNode : Node Unit Unit :=
  .node 1 "Plan_1" .sequence
    [.node 2 ") Try_2" .fallback [idleNode 3 "n1 --> n2"], idleNode 4 "n3[\"a",
     idleNode 5 " | (a) Do"]

theorem renderings_lose_nothing_of_masked :
    maskedNode.OneLineNames ∧ regroupedNode.OneLineNames ∧
      maskedNode.toText ≠ regroupedNode.toText ∧
      (∃ edges, maskedNode.Links edges ∧
        maskedNode.DrawnAs .mermaid maskedNode.toMermaid edges ∧
        maskedNode.DrawnAs .dot maskedNode.toDot edges) ∧
      Builder.fresh.build maskedNode.erase = (.ok maskedNode, ⟨5⟩) ∧
      (maskedNode.nodes.map Tree.id).Nodup := by
  have names : maskedNode.OneLineNames := by decide +kernel
  have namesToo : regroupedNode.OneLineNames := by decide +kernel
  have built : Builder.fresh.build maskedNode.erase = (.ok maskedNode, ⟨5⟩) := rfl
  obtain ⟨outlines, graphs, numbers⟩ := renderings_lose_nothing maskedNode
  refine ⟨names, namesToo, ?_, graphs, built, numbers _ _ _ (by decide) built⟩
  rw [ne_eq, outlines _ _ _ names namesToo]
  simp [maskedNode, regroupedNode, Node.sketch, Node.sketchList]

end Disclosure
