import Disclosure.Proofs.Text.Lines
import Disclosure.Tree.Render

/-!
# What an outline shows

The outline of a tree has one line for each node.  A sketch is all that can be known
of the tree from these lines: its shape and, at each node, its number, its name and
the sign of its kind.  If no name goes on in another line, the outline shows the whole
sketch.
-/

namespace Disclosure

open Text

variable {μ β ν γ : Type}

/-! ## Signs -/

/-- The signs of all kinds of node. -/
def markers : List String :=
  [">", "?", "=", "^", "S", "F", "R", "d", "l", "a", "c", "z"]

theorem Decorator.marker_mem (transform : Decorator) : transform.marker ∈ markers := by
  cases transform <;> simp [marker, markers]

theorem Kind.marker_mem (kind : Kind μ β) : kind.marker ∈ markers := by
  cases kind with
  | decorator transform => exact transform.marker_mem
  | leaf behavior =>
    cases kind : behavior.kind <;> simp [marker, kind, LeafKind.marker, markers]
  | _ => simp [marker, markers]

/-- What renderings show of a node. -/
structure Sign where
  id : UInt64
  marker : String
  name : String
  marked : marker ∈ markers

namespace Sign

variable {sign other : Sign}

theorem exists_char (sign : Sign) :
    ∃ char, sign.marker.toList = [char] ∧ char ≠ '\n' := by
  have all : ∀ marker ∈ markers,
      marker.toList.length = 1 ∧ '\n' ∉ marker.toList := by decide
  rcases all _ sign.marked with ⟨single, noLineEnd⟩
  rcases List.length_eq_one_iff.mp single with ⟨char, only⟩
  refine ⟨char, only, fun lineEnd => noLineEnd ?_⟩
  simp [only, lineEnd]

theorem oneLine_marker (sign : Sign) : OneLine sign.marker := by
  rcases sign.exists_char with ⟨char, only, noLineEnd⟩
  simp [OneLine, only, noLineEnd.symm]

/-- What follows a sign can be told from the sign, which is one character. -/
theorem marker_append_inj {tail rest : List Char}
    (same : sign.marker.toList ++ tail = other.marker.toList ++ rest) :
    sign.marker = other.marker ∧ tail = rest := by
  rcases sign.exists_char with ⟨char, only, _⟩
  rcases other.exists_char with ⟨another, onlyToo, _⟩
  rw [only, onlyToo, List.singleton_append, List.singleton_append,
    List.cons.injEq] at same
  refine ⟨String.toList_inj.mp ?_, same.2⟩
  rw [only, onlyToo, same.1]

theorem ext_parts (id : sign.id = other.id) (marker : sign.marker = other.marker)
    (name : sign.name = other.name) : sign = other := by
  cases sign
  cases other
  cases id
  cases marker
  cases name
  rfl

/-- The line of a node in the outline. -/
def line (depth : Nat) (sign : Sign) : String :=
  Node.indent depth ++ "(" ++ sign.marker ++ ") "
    ++ (sign.name ++ "_" ++ toString sign.id.toNat)

theorem toList_line (depth : Nat) (sign : Sign) :
    (sign.line depth).toList =
      (Node.indent depth).toList ++ '(' :: (sign.marker.toList ++ ')' :: ' '
        :: (sign.name.toList ++ '_' :: Nat.toDigits 10 sign.id.toNat)) := by
  simp [line, Nat.toString_eq_repr, Nat.toList_repr]

/-- The characters of indents. -/
def barred (char : Char) : Bool := char == ' ' || char == '|'

theorem barred_of_mem_indent {depth : Nat} :
    ∀ char ∈ (Node.indent depth).toList, barred char = true := by
  induction depth with
  | zero => simp [Node.indent]
  | succ depth ih =>
    have bar : ∀ char ∈ " | ".toList, barred char = true := by simp [barred]
    rw [Node.indent, String.toList_append]
    exact List.forall_mem_append.mpr ⟨bar, ih⟩

theorem length_indent (depth : Nat) : (Node.indent depth).length = 3 * depth := by
  induction depth with
  | zero => rfl
  | succ depth ih =>
    rw [Node.indent, String.length_append, ih, Nat.mul_succ, Nat.add_comm]
    rfl

/-- The depth and the sign can be read off a line, whatever is in the name. -/
theorem line_inj {depth level : Nat} (same : sign.line depth = other.line level) :
    depth = level ∧ sign = other := by
  have chars := congrArg String.toList same
  rw [toList_line, toList_line] at chars
  rcases append_inj_of_runs barred_of_mem_indent barred_of_mem_indent
    (fun char found => by cases found; rfl) (fun char found => by cases found; rfl)
    chars with ⟨indents, behind⟩
  rcases marker_append_inj (List.cons.inj behind).2 with ⟨marker, titles⟩
  simp only [List.cons.injEq, true_and] at titles
  rcases append_number_inj rfl titles with ⟨name, number⟩
  have lengths := congrArg String.length (String.toList_inj.mp indents)
  rw [length_indent, length_indent] at lengths
  exact ⟨Nat.eq_of_mul_eq_mul_left (by decide) lengths,
    ext_parts (UInt64.toNat_inj.mp number) marker (String.toList_inj.mp name)⟩

theorem oneLine_line {depth : Nat} (name : OneLine sign.name) :
    OneLine (sign.line depth) := by
  have indent : OneLine (Node.indent depth) := by
    intro among
    exact absurd (barred_of_mem_indent _ among) (by decide)
  have digits := not_mem_toDigits (show '\n'.isDigit = false by decide)
    sign.id.toNat
  have marker := sign.oneLine_marker
  simp only [OneLine] at *
  rw [toList_line]
  simp [indent, digits, marker, name]

end Sign

/-! ## Sketches -/

/-- The shape of a tree, with a sign at each node. -/
inductive Sketch where
  | node (sign : Sign) (children : List Sketch)

namespace Sketch

mutual

/-- The signs with their depths, each node before the nodes below it. -/
def ranks (depth : Nat) : Sketch → List (Nat × Sign)
  | .node sign children => (depth, sign) :: ranksOfList (depth + 1) children

def ranksOfList (depth : Nat) : List Sketch → List (Nat × Sign)
  | [] => []
  | sketch :: sketches => ranks depth sketch ++ ranksOfList depth sketches

end

/-- What follows does not lie below this depth. -/
def Leaves (depth : Nat) (rest : List (Nat × Sign)) : Prop :=
  ∀ entry ∈ rest.head?, entry.1 < depth

variable {depth : Nat} {rest more : List (Nat × Sign)}

theorem Leaves.next (leaves : Leaves depth rest) : Leaves (depth + 1) rest :=
  fun entry found => Nat.lt_succ_of_lt (leaves entry found)

theorem leaves_ranksOfList (sketches : List Sketch) (leaves : Leaves depth rest) :
    Leaves (depth + 1) (ranksOfList depth sketches ++ rest) := by
  cases sketches with
  | nil => exact leaves.next
  | cons sketch sketches =>
    cases sketch
    intro entry found
    cases found
    exact Nat.lt_succ_self depth

theorem not_leaves_ranks {sketch : Sketch}
    (same : rest = ranks depth sketch ++ more) : ¬ Leaves depth rest := by
  cases sketch
  subst same
  intro leaves
  exact absurd (leaves _ rfl) (Nat.lt_irrefl depth)

mutual

/-- A sketch ends where the depths go back to its own: it can be told from what
follows. -/
theorem ranks_inj {depth : Nat} {rest more : List (Nat × Sign)}
    (leaves : Leaves (depth + 1) rest) (leavesToo : Leaves (depth + 1) more) :
    (sketch other : Sketch) →
      ranks depth sketch ++ rest = ranks depth other ++ more →
        sketch = other ∧ rest = more
  | .node sign children, .node another others, same => by
    rw [ranks, ranks, List.cons_append, List.cons_append, List.cons.injEq,
      Prod.mk.injEq] at same
    rcases ranksOfList_inj leaves leavesToo children others same.2 with ⟨below, after⟩
    exact ⟨by rw [same.1.2, below], after⟩

theorem ranksOfList_inj {depth : Nat} {rest more : List (Nat × Sign)}
    (leaves : Leaves depth rest) (leavesToo : Leaves depth more) :
    (sketches others : List Sketch) →
      ranksOfList depth sketches ++ rest = ranksOfList depth others ++ more →
        sketches = others ∧ rest = more
  | [], [], same => ⟨rfl, same⟩
  | [], other :: others, same => by
    rw [ranksOfList, ranksOfList, List.nil_append, List.append_assoc] at same
    exact absurd leaves (not_leaves_ranks same)
  | sketch :: sketches, [], same => by
    rw [ranksOfList, ranksOfList, List.nil_append, List.append_assoc] at same
    exact absurd leavesToo (not_leaves_ranks same.symm)
  | sketch :: sketches, other :: others, same => by
    rw [ranksOfList, ranksOfList, List.append_assoc, List.append_assoc] at same
    rcases ranks_inj (leaves_ranksOfList sketches leaves)
      (leaves_ranksOfList others leavesToo) sketch other same with ⟨here, behind⟩
    rcases ranksOfList_inj leaves leavesToo sketches others behind with ⟨later, after⟩
    exact ⟨by rw [here, later], after⟩

end

end Sketch

/-! ## Outlines -/

namespace Node

def sign (node : Node μ β) : Sign :=
  ⟨node.id, node.kind.marker, node.name, node.kind.marker_mem⟩

mutual

/-- The shape of a tree and what is shown of its nodes. -/
def sketch : Node μ β → Sketch
  | .node id name kind children =>
    .node (sign (.node id name kind children)) (sketchList children)

def sketchList : List (Node μ β) → List Sketch
  | [] => []
  | node :: nodes => node.sketch :: sketchList nodes

end

mutual

theorem outlineLines_eq (depth : Nat) :
    (node : Node μ β) →
      outlineLines depth node =
        (node.sketch.ranks depth).map fun (depth, sign) => sign.line depth
  | .node id name kind children => by
    rw [outlineLines, sketch, Sketch.ranks, List.map_cons,
      outlineLinesOfList_eq (depth + 1) children]
    rfl

theorem outlineLinesOfList_eq (depth : Nat) :
    (nodes : List (Node μ β)) →
      outlineLinesOfList depth nodes =
        (Sketch.ranksOfList depth (sketchList nodes)).map
          fun (depth, sign) => sign.line depth
  | [] => rfl
  | node :: nodes => by
    rw [outlineLinesOfList, sketchList, Sketch.ranksOfList, List.map_append,
      outlineLines_eq depth node, outlineLinesOfList_eq depth nodes]

end

mutual

/-- The outline shows each node once. -/
theorem signs_of_ranks (depth : Nat) :
    (node : Node μ β) →
      (node.sketch.ranks depth).map Prod.snd = node.nodes.map sign
  | .node id name kind children => by
    rw [sketch, Sketch.ranks, Tree.nodes, List.map_cons, List.map_cons,
      signs_of_ranksOfList (depth + 1) children]

theorem signs_of_ranksOfList (depth : Nat) :
    (nodes : List (Node μ β)) →
      (Sketch.ranksOfList depth (sketchList nodes)).map Prod.snd =
        (Tree.nodesOfList nodes).map sign
  | [] => rfl
  | node :: nodes => by
    rw [sketchList, Sketch.ranksOfList, Tree.nodesOfList, List.map_append,
      List.map_append, signs_of_ranks depth node, signs_of_ranksOfList depth nodes]

end

theorem unlines_eq (lines : List String) :
    unlines lines = "\n".intercalate (lines ++ [""]) := by
  induction lines with
  | nil => rfl
  | cons line lines ih =>
    have rest : lines ++ [""] ≠ [] := by simp
    rw [unlines, List.map_cons, String.join_cons, List.cons_append,
      String.intercalate_cons_of_ne_nil rest, ← ih, unlines]

theorem unlines_inj {lines others : List String} (each : ∀ line ∈ lines, OneLine line)
    (eachToo : ∀ line ∈ others, OneLine line) (same : unlines lines = unlines others) :
    lines = others := by
  rw [unlines_eq, unlines_eq] at same
  have empty : ∀ line ∈ [""], OneLine line := by simp [OneLine]
  exact List.append_cancel_right (lines_inj (by simp) (by simp)
    (List.forall_mem_append.mpr ⟨each, empty⟩)
    (List.forall_mem_append.mpr ⟨eachToo, empty⟩) same)

/-- No name goes on in another line. -/
def OneLineNames (node : Node μ β) : Prop := ∀ part ∈ node.nodes, OneLine part.name

instance (node : Node μ β) : Decidable node.OneLineNames :=
  inferInstanceAs (Decidable (∀ part ∈ node.nodes, OneLine part.name))

theorem oneLine_outlineLines {node : Node μ β} (names : node.OneLineNames) :
    ∀ line ∈ outlineLines 0 node, OneLine line := by
  rw [outlineLines_eq]
  intro line among
  rcases List.mem_map.mp among with ⟨⟨depth, sign⟩, entry, rfl⟩
  have shown : sign ∈ node.nodes.map Node.sign := by
    rw [← signs_of_ranks 0]
    exact List.mem_map_of_mem entry
  rcases List.mem_map.mp shown with ⟨part, member, rfl⟩
  exact Sign.oneLine_line (names part member)

/-- An outline shows the sketch and nothing else. -/
theorem toText_eq_iff {first : Node μ β} {second : Node ν γ} (names : first.OneLineNames)
    (namesToo : second.OneLineNames) :
    first.toText = second.toText ↔ first.sketch = second.sketch := by
  constructor
  · intro same
    have lines := unlines_inj (oneLine_outlineLines names)
      (oneLine_outlineLines namesToo) same
    rw [outlineLines_eq, outlineLines_eq] at lines
    have ranks := (List.map_inj_right fun _ _ sameLine =>
      Prod.ext_iff.mpr (Sign.line_inj sameLine)).mp lines
    have none : Sketch.Leaves 1 [] := nofun
    refine (Sketch.ranks_inj none none first.sketch second.sketch ?_).1
    rw [List.append_nil, List.append_nil, ranks]
  · intro same
    rw [toText, toText, outlineLines_eq, outlineLines_eq, same]

end Node

end Disclosure
