import Disclosure.Proofs.Tree.Safety
import Mathlib.Algebra.Ring.Nat
import Mathlib.Data.List.Nodup

/-!
# The numbers of built trees

A builder goes through a specification depth first, a node before its children, and
stops at the first node that breaks the rule of arity of its kind.  Every node
before that one has used up a number, also when the build fails in the end.  So
what is built has the numbers in that order, and one builder never hands a number
out twice.
-/

namespace Disclosure

variable {ι μ β : Type}

/-! ## Rules of arity -/

namespace Kind

variable {name : String} {children : Nat}

/-- A node of this kind breaks its rule with so many children; that there are too
few of them comes before a threshold that they cannot reach. -/
inductive Breaks (name : String) (children : Nat) :
    Kind μ β → BuildError → Prop where
  | leaf {behavior : Leaf μ β} (some : children ≠ 0) :
    Breaks name children (.leaf behavior) (.leafWithChildren name children)
  | decorator {transform : Decorator} (other : children ≠ 1) :
    Breaks name children (.decorator transform)
      (.decoratorArity name children)
  | tooFew {minSuccess : Nat} (few : children < 2) :
    Breaks name children (.parallel minSuccess)
      (.parallelTooFewChildren name children)
  | threshold {minSuccess : Nat} (enough : 2 ≤ children)
      (outside : minSuccess = 0 ∨ children < minSuccess) :
    Breaks name children (.parallel minSuccess)
      (.parallelThreshold name minSuccess children)

theorem arityError_eq_none_iff {kind : Kind μ β} :
    kind.arityError? name children = none ↔ kind.Admits children := by
  refine ⟨admits_of_arityError, ?_⟩
  intro admits
  cases kind with
  | sequence | fallback => rfl
  | parallel minSuccess =>
    rcases admits with ⟨several, positive, within⟩
    rw [arityError?, if_neg (by omega), if_neg (by omega)]
  | decorator transform => exact if_pos admits
  | leaf behavior => exact if_pos admits

theorem breaks_of_arityError {kind : Kind μ β} {error : BuildError}
    (found : kind.arityError? name children = some error) :
    kind.Breaks name children error := by
  cases kind with
  | sequence | fallback => cases found
  | parallel minSuccess =>
    simp only [arityError?] at found
    split at found
    next few =>
      cases found
      exact .tooFew few
    next several =>
      split at found
      next outside =>
        cases found
        exact .threshold (by omega) outside
      next => cases found
  | decorator transform =>
    simp only [arityError?] at found
    split at found
    next => cases found
    next other =>
      cases found
      exact .decorator other
  | leaf behavior =>
    simp only [arityError?] at found
    split at found
    next => cases found
    next some =>
      cases found
      exact .leaf some

end Kind

namespace Tree

/-- What is wrong with the number of children of the root. -/
def breach? (tree : Tree ι μ β) : Option BuildError :=
  tree.kind.arityError? tree.name tree.children.length

end Tree

/-! ## Numbers -/

namespace Builder

/-- The builder after some more numbers. -/
def after (builder : Builder) (count : Nat) : Builder :=
  ⟨builder.issued + .ofNat count⟩

/-- The next numbers that the builder hands out. -/
def numbers (builder : Builder) (count : Nat) : List UInt64 :=
  (List.range count).map fun index => (builder.after (index + 1)).issued

@[simp]
theorem after_zero (builder : Builder) : builder.after 0 = builder := by
  simp [after]

@[simp]
theorem after_after (builder : Builder) (first second : Nat) :
    (builder.after first).after second = builder.after (first + second) := by
  simp [after, UInt64.add_assoc]

theorem next_eq_after (builder : Builder) : builder.next = builder.after 1 :=
  rfl

theorem numbers_add (builder : Builder) (first second : Nat) :
    builder.numbers (first + second) =
      builder.numbers first ++ (builder.after first).numbers second := by
  simp [numbers, List.range_add, Nat.add_assoc]

/-- As long as there is room, the numbers do not start over. -/
theorem issued_after {builder : Builder} {count : Nat}
    (room : builder.issued.toNat + count < 2 ^ 64) :
    (builder.after count).issued.toNat = builder.issued.toNat + count := by
  rw [after, UInt64.toNat_add, UInt64.toNat_ofNat', Nat.add_mod_mod]
  exact Nat.mod_eq_of_lt room

theorem toNat_numbers {builder : Builder} {count : Nat}
    (room : builder.issued.toNat + count < 2 ^ 64) :
    (builder.numbers count).map UInt64.toNat =
      List.range' (builder.issued.toNat + 1) count := by
  rw [List.range'_eq_map_range, numbers, List.map_map]
  apply List.map_congr_left
  intro index listed
  have inside := List.mem_range.mp listed
  rw [Function.comp, issued_after (by omega)]
  omega

/-! ## One build -/

/-- All of these nodes obey their rules; they were built to nodes that have the
next numbers. -/
structure Completes (builder last : Builder) (parts : List (Spec μ β))
    (nodes : List (Node μ β)) : Prop where
  sound : ∀ part ∈ parts, part.breach? = none
  numbered : nodes.map Tree.id = builder.numbers parts.length
  last : last = builder.after parts.length

/-- One of these nodes is the first to break its rule, and the nodes before it
have used up a number each. -/
def Stops (builder last : Builder) (parts : List (Spec μ β))
    (error : BuildError) : Prop :=
  ∃ before part rest, parts = before ++ part :: rest ∧
    (∀ earlier ∈ before, earlier.breach? = none) ∧
    part.breach? = some error ∧ last = builder.after before.length

namespace Completes

variable {builder middle last : Builder} {parts more : List (Spec μ β)}
  {nodes others : List (Node μ β)}

theorem nil : Completes builder builder ([] : List (Spec μ β)) [] where
  sound := by simp
  numbered := rfl
  last := builder.after_zero.symm

theorem append
    (first : Completes builder middle parts nodes)
    (second : Completes middle last more others) :
    Completes builder last (parts ++ more) (nodes ++ others) where
  sound part among := by
    rcases List.mem_append.mp among with here | there
    · exact first.sound part here
    · exact second.sound part there
  numbered := by
    rw [List.map_append, first.numbered, second.numbered, first.last,
      List.length_append, numbers_add]
  last := by
    rw [second.last, first.last, after_after, List.length_append]

/-- A node comes before the nodes below it. -/
theorem root {name : String} {kind : Kind μ β} {children : List (Spec μ β)}
    {built : List (Node μ β)}
    (sound : kind.arityError? name children.length = none)
    (below : Completes builder.next last (Tree.nodesOfList children)
      (Tree.nodesOfList built)) :
    Completes builder last (Tree.nodes (.node () name kind children))
      (Tree.nodes (.node builder.next.issued name kind built)) := by
  rw [Tree.nodes, Tree.nodes]
  have alone : Completes builder builder.next [Tree.node () name kind children]
      [Tree.node builder.next.issued name kind built] :=
    ⟨fun part only => List.mem_singleton.mp only ▸ sound, rfl, rfl⟩
  exact alone.append below

end Completes

namespace Stops

variable {builder middle last : Builder} {parts more : List (Spec μ β)}
  {error : BuildError}

/-- It stops before all that comes later. -/
theorem early (stops : Stops builder last parts error) :
    Stops builder last (parts ++ more) error := by
  rcases stops with ⟨before, part, rest, rfl, sound, found, ends⟩
  exact ⟨before, part, rest ++ more, by simp, sound, found, ends⟩

/-- It goes through all that comes earlier. -/
theorem late {nodes : List (Node μ β)}
    (completes : Completes builder middle parts nodes)
    (stops : Stops middle last more error) :
    Stops builder last (parts ++ more) error := by
  rcases stops with ⟨before, part, rest, rfl, sound, found, ends⟩
  refine ⟨parts ++ before, part, rest, by simp, ?_, found, ?_⟩
  · intro earlier among
    rcases List.mem_append.mp among with here | there
    · exact completes.sound earlier here
    · exact sound earlier there
  · rw [ends, completes.last, after_after, List.length_append]

theorem root {name : String} {kind : Kind μ β} {children : List (Spec μ β)}
    (found : kind.arityError? name children.length = some error) :
    Stops builder builder (Tree.nodes (.node () name kind children)) error := by
  rw [Tree.nodes]
  exact ⟨[], _, _, rfl, by simp, found, builder.after_zero.symm⟩

theorem below {name : String} {kind : Kind μ β} {children : List (Spec μ β)}
    (sound : kind.arityError? name children.length = none)
    (stops : Stops builder.next last (Tree.nodesOfList children) error) :
    Stops builder last (Tree.nodes (.node () name kind children)) error := by
  rw [Tree.nodes]
  rcases stops with ⟨before, part, rest, parts, earlier, found, ends⟩
  refine ⟨.node () name kind children :: before, part, rest, ?_, ?_, found, ?_⟩
  · rw [parts, List.cons_append]
  · exact List.forall_mem_cons.mpr ⟨sound, earlier⟩
  · rw [ends, next_eq_after, after_after, Nat.add_comm, List.length_cons]

end Stops

/-- What comes of building some specifications, of which `parts` are all nodes. -/
def Ends {ρ : Type} (builder : Builder) (parts : List (Spec μ β))
    (nodes : ρ → List (Node μ β)) (keeps : ρ → Prop) :
    Except BuildError ρ × Builder → Prop
  | (.ok built, last) =>
    keeps built ∧ Completes builder last parts (nodes built)
  | (.error error, last) => Stops builder last parts error

mutual

/-- A build goes through the nodes depth first, up to the first that breaks its
rule. -/
theorem build_ends (builder : Builder) :
    (spec : Spec μ β) →
      Ends builder spec.nodes Tree.nodes (Tree.erase · = spec)
        (builder.build spec)
  | .node _ name kind children => by
    have below := buildList_ends builder.next children
    rw [build]
    split
    next error found => exact .root found
    next sound =>
      split
      next error last failed =>
        rw [failed] at below
        exact .below sound below
      next nodes last built =>
        rw [built] at below
        exact ⟨congrArg (Tree.node () name kind) below.1, .root sound below.2⟩

theorem buildList_ends (builder : Builder) :
    (specs : List (Spec μ β)) →
      Ends builder (Tree.nodesOfList specs) Tree.nodesOfList
        (Tree.eraseList · = specs) (builder.buildList specs)
  | [] => ⟨rfl, .nil⟩
  | spec :: specs => by
    have first := build_ends builder spec
    rw [buildList, Tree.nodesOfList]
    split
    next error last failed =>
      rw [failed] at first
      exact first.early
    next node middle built =>
      rw [built] at first
      have later := buildList_ends middle specs
      split
      next error last failed =>
        rw [failed] at later
        exact .late first.2 later
      next nodes last builtAll =>
        rw [builtAll] at later
        exact ⟨congrArg₂ List.cons first.1 later.1, first.2.append later.2⟩

end

/-- A build succeeds exactly if each node obeys its rule. -/
theorem build_ok_iff (builder : Builder) (spec : Spec μ β) :
    (∃ node, (builder.build spec).1 = .ok node) ↔
      ∀ part ∈ spec.nodes, part.kind.Admits part.children.length := by
  have ends := builder.build_ends spec
  rcases went : builder.build spec with ⟨error | node, last⟩
  · rw [went] at ends
    rcases ends with ⟨before, part, rest, parts, _, found, _⟩
    constructor
    · rintro ⟨node, impossible⟩
      cases impossible
    · intro all
      have among : part ∈ spec.nodes := by simp [parts]
      have sound : part.breach? = none :=
        Kind.arityError_eq_none_iff.mpr (all part among)
      rw [sound] at found
      cases found
  · rw [went] at ends
    exact ⟨fun _ part among =>
      Kind.arityError_eq_none_iff.mp (ends.2.sound part among),
      fun _ => ⟨node, rfl⟩⟩

/-- The number that was handed out last is on the node that comes last. -/
theorem getLast_of_build {builder last : Builder} {spec : Spec μ β}
    {node : Node μ β}
    (built : builder.build spec = (.ok node, last)) :
    (node.nodes.map Tree.id).getLast? = some last.issued := by
  have ends := builder.build_ends spec
  rw [built] at ends
  obtain ⟨below, count⟩ : ∃ below, spec.nodes.length = below + 1 := by
    rcases spec with ⟨_, name, kind, children⟩
    exact ⟨_, by rw [Tree.nodes, List.length_cons]⟩
  rw [ends.2.numbered, ends.2.last, count, numbers, List.range_succ,
    List.map_append]
  exact List.getLast?_concat

/-- The first node that breaks its rule is the reason of a failure. -/
theorem breaks_of_build {builder last : Builder} {spec : Spec μ β}
    {error : BuildError}
    (room : builder.issued.toNat + spec.size < 2 ^ 64)
    (failed : builder.build spec = (.error error, last)) :
    ∃ before part rest, spec.nodes = before ++ part :: rest ∧
      (∀ earlier ∈ before,
        earlier.kind.Admits earlier.children.length) ∧
      part.kind.Breaks part.name part.children.length error ∧
      last.issued.toNat = builder.issued.toNat + before.length := by
  have ends := builder.build_ends spec
  rw [failed] at ends
  rcases ends with ⟨before, part, rest, parts, sound, found, used⟩
  have within : before.length ≤ spec.size := by
    rw [Tree.size, parts, List.length_append]
    exact Nat.le_add_right ..
  refine ⟨before, part, rest, parts, ?_, Kind.breaks_of_arityError found, ?_⟩
  · exact fun earlier among =>
      Kind.arityError_eq_none_iff.mp (sound earlier among)
  · rw [used, issued_after (by omega)]

/-! ## Several builds -/

/-- The numbers in what was built. -/
def numbersOf : Except BuildError (Node μ β) → List UInt64
  | .ok node => node.nodes.map Tree.id
  | .error _ => []

/-- Build one specification after the other, whether or not the builds fail. -/
def buildEach (builder : Builder) :
    List (Spec μ β) → List (Except BuildError (Node μ β)) × Builder
  | [] => ([], builder)
  | spec :: specs =>
    let (built, next) := builder.build spec
    let (others, last) := next.buildEach specs
    (built :: others, last)

/-- A build uses some of the next numbers up, and has all its numbers from
them. -/
theorem numbersOf_build (builder : Builder) (spec : Spec μ β) :
    ∃ used ≤ spec.size, (builder.build spec).2 = builder.after used ∧
      (numbersOf (builder.build spec).1).Sublist (builder.numbers used) := by
  have ends := builder.build_ends spec
  rcases went : builder.build spec with ⟨built, last⟩
  rw [went] at ends
  cases built with
  | ok node =>
    refine ⟨spec.size, Nat.le_refl _, ends.2.last, ?_⟩
    rw [numbersOf, ends.2.numbered]
    exact List.Sublist.refl _
  | error error =>
    rcases ends with ⟨before, part, rest, parts, _, _, used⟩
    refine ⟨before.length, ?_, used, List.nil_sublist _⟩
    rw [Tree.size, parts, List.length_append]
    exact Nat.le_add_right ..

theorem numbersOf_buildEach (builder : Builder) (specs : List (Spec μ β)) :
    ∃ used ≤ (specs.map Tree.size).sum,
      ((builder.buildEach specs).1.flatMap numbersOf).Sublist
        (builder.numbers used) := by
  induction specs generalizing builder with
  | nil => exact ⟨0, Nat.le_refl _, List.nil_sublist _⟩
  | cons spec specs ih =>
    rcases builder.numbersOf_build spec with ⟨first, within, next, numbers⟩
    rcases ih (builder.build spec).2 with ⟨later, withinToo, others⟩
    rw [next] at others
    refine ⟨first + later, ?_, ?_⟩
    · rw [List.map_cons, List.sum_cons]
      exact Nat.add_le_add within withinToo
    · rw [buildEach, List.flatMap_cons, numbers_add, next]
      exact numbers.append others

theorem nodup_buildEach {builder : Builder} {specs : List (Spec μ β)}
    (room : builder.issued.toNat + (specs.map Tree.size).sum < 2 ^ 64) :
    ((builder.buildEach specs).1.flatMap numbersOf).Nodup := by
  rcases builder.numbersOf_buildEach specs with ⟨used, within, numbers⟩
  have fresh : ((builder.numbers used).map UInt64.toNat).Nodup := by
    rw [toNat_numbers (by omega)]
    exact List.nodup_range'
  exact numbers.nodup (List.Nodup.of_map _ fresh)

end Builder

/-! ## Fresh traces -/

namespace Trace

mutual

/-- Nothing is remembered before the first tick. -/
theorem blank_of_mem_nodes {trace : Trace μ} :
    (tree : Tree ι μ β) → trace ∈ (blank tree).nodes →
      trace.status = none ∧ trace.count = 0
  | .node _ _ _ children, among => by
    rw [blank, nodes] at among
    rcases List.mem_cons.mp among with rfl | below
    · exact ⟨rfl, rfl⟩
    · exact blank_of_mem_nodesOfList children below

theorem blank_of_mem_nodesOfList {trace : Trace μ} :
    (trees : List (Tree ι μ β)) → trace ∈ nodesOfList (blankList trees) →
      trace.status = none ∧ trace.count = 0
  | [], among => by
    rw [blankList, nodesOfList] at among
    cases among
  | tree :: trees, among => by
    rw [blankList, nodesOfList] at among
    rcases List.mem_append.mp among with here | there
    · exact blank_of_mem_nodes tree here
    · exact blank_of_mem_nodesOfList trees there

end

end Trace

namespace LiveNode

theorem statuses_ofNode (node : Node μ β) :
    ∀ status ∈ (ofNode node).statuses, status = none := by
  intro status among
  rcases List.mem_map.mp among with ⟨trace, member, rfl⟩
  exact (Trace.blank_of_mem_nodes node member).1

theorem loopCounts_ofNode (node : Node μ β) :
    ∀ count ∈ (ofNode node).loopCounts, count = 0 := by
  intro count among
  rcases List.mem_filterMap.mp among with ⟨⟨part, trace⟩, entry, counted⟩
  rw [loopCount?] at counted
  split at counted
  · cases counted
    exact (Trace.blank_of_mem_nodes node (List.of_mem_zip entry).2).2
  · cases counted

end LiveNode

/--
Building is the check of all arities: it succeeds exactly if each node has as many
children as its kind demands.  What is built is the specification with the next
numbers on its nodes, depth first and a node before its children, and nothing is
remembered yet.  A build that fails reports the first node in that order that
breaks its rule, and has used up a number for each node before it.  So the numbers
of several builds never repeat, whether or not some of them fail.
-/
theorem builds_check_arity_and_number
    (builder : Builder)
    (spec : Spec μ β)
    (room : builder.issued.toNat + spec.size < 2 ^ 64) :
    ((∃ node, (builder.build spec).1 = .ok node) ↔
      ∀ part ∈ spec.nodes, part.kind.Admits part.children.length) ∧
    (∀ node last, builder.build spec = (.ok node, last) →
      node.erase = spec ∧
      node.nodes.map (fun part => part.id.toNat) =
        List.range' (builder.issued.toNat + 1) spec.size ∧
      (node.nodes.map Tree.id).getLast? = some last.issued ∧
      (∀ status ∈ (LiveNode.ofNode node).statuses, status = none) ∧
      ∀ count ∈ (LiveNode.ofNode node).loopCounts, count = 0) ∧
    (∀ error last, builder.build spec = (.error error, last) →
      ∃ before part rest, spec.nodes = before ++ part :: rest ∧
        (∀ earlier ∈ before,
          earlier.kind.Admits earlier.children.length) ∧
        part.kind.Breaks part.name part.children.length error ∧
        last.issued.toNat = builder.issued.toNat + before.length) ∧
    ∀ specs : List (Spec μ β),
      builder.issued.toNat + (specs.map Tree.size).sum < 2 ^ 64 →
      ((builder.buildEach specs).1.flatMap Builder.numbersOf).Nodup := by
  refine ⟨builder.build_ok_iff spec, ?_, ?_, ?_⟩
  · intro node last built
    have ends := builder.build_ends spec
    rw [built] at ends
    rcases ends with ⟨erased, completes⟩
    refine ⟨erased, ?_, Builder.getLast_of_build built,
      LiveNode.statuses_ofNode node, LiveNode.loopCounts_ofNode node⟩
    rw [← Builder.toNat_numbers room, Tree.size, ← completes.numbered,
      List.map_map]
    rfl
  · exact fun error last failed => Builder.breaks_of_build room failed
  · exact fun specs roomForAll => Builder.nodup_buildEach roomForAll

/-- A node that has too few children, and whose threshold they could not reach
either, after another tree. -/
def lopsidedSpec : Spec Nat Workbench :=
  .sequence "Both"
    [exampleSpec,
     .parallel "Duel" 3
      [.ofLeaf "Alone" (Workbench.player "alone" #[.success])],
     .decorate "Idle" .invert (.sequence "Nothing" [])]

theorem builds_check_arity_and_number_from_ten :
    (Builder.mk 10).issued.toNat + lopsidedSpec.size < 2 ^ 64 ∧
      (¬ ∃ node, ((Builder.mk 10).build lopsidedSpec).1 = .ok node) ∧
      (∃ before part rest, lopsidedSpec.nodes = before ++ part :: rest ∧
        part.kind.Breaks part.name part.children.length
          (.parallelTooFewChildren "Duel" 1) ∧
        19 = 10 + before.length) ∧
      (((Builder.mk 10).buildEach
        [lopsidedSpec, exampleSpec, lopsidedSpec]).1.flatMap
          Builder.numbersOf).Nodup := by
  have room : (Builder.mk 10).issued.toNat + lopsidedSpec.size < 2 ^ 64 := by
    decide
  obtain ⟨succeeds, _, fails, fresh⟩ :=
    builds_check_arity_and_number (Builder.mk 10) lopsidedSpec room
  have failed : (Builder.mk 10).build lopsidedSpec =
      (.error (.parallelTooFewChildren "Duel" 1), ⟨19⟩) :=
    rfl
  obtain ⟨before, part, rest, parts, _, breaks, used⟩ := fails _ _ failed
  refine ⟨room, ?_, ⟨before, part, rest, parts, breaks, used⟩,
    fresh _ (by decide)⟩
  rw [succeeds]
  intro all
  have duel := all _ (List.mem_of_getElem? (i := 9) rfl)
  exact absurd duel.1 (by decide)

end Disclosure
