import Disclosure.Proofs.Tree.Bounds
import Disclosure.Proofs.Tree.Hosting

/-!
# The counts of loops

Where every loop of a tree goes on until a failure and begins to count anew with
each tick, a count that a tick leaves behind is within the bound of the tick, or
the loop was not ticked and the count is an old one.
-/

namespace Disclosure

open TickError

variable {ι σ μ β : Type} {bound : Nat}

/-! ## What a ticker remembers -/

namespace Ticker

variable {rel : σ → σ → Prop} {tick : Ticker σ β}

/-- What is remembered changes as the relation says. -/
def Changes (rel : σ → σ → Prop) (tick : Ticker σ β) : Prop :=
  ∀ state board step, tick state board = .ok step → rel state step.state

theorem changes_inOrder {through : Status} {ticks : List (Ticker σ β)}
    (stays : ∀ state, rel state state)
    (each : ∀ tick ∈ ticks, tick.Changes rel) :
    (inOrder through ticks).Changes (List.Forall₂ rel) := by
  induction ticks with
  | nil =>
    intro states board step ends
    cases ends
    exact List.forall₂_same.mpr fun state _ => stays state
  | cons tick ticks ih =>
    have rest : (inOrder through ticks).Changes (List.Forall₂ rel) :=
      ih fun other member => each other (by simp [member])
    intro states board step ends
    cases states with
    | nil => cases ends
    | cons state states =>
      rcases exists_of_bind ends with ⟨first, ticked, goes⟩
      have changes := each tick (by simp) state board first ticked
      by_cases goesOn : first.status = through
      · rw [if_pos goesOn] at goes
        rcases exists_of_bind goes with ⟨later, tickedOn, same⟩
        cases same
        exact .cons changes (rest _ _ _ tickedOn)
      · rw [if_neg goesOn] at goes
        cases goes
        exact .cons changes (List.forall₂_same.mpr fun state _ => stays state)

/-- Only one of several states changes. -/
theorem forall₂_set {states : List σ} {index : Nat} {state next : σ}
    (stays : ∀ state, rel state state)
    (found : states[index]? = some state)
    (changes : rel state next) :
    List.Forall₂ rel states (states.set index next) := by
  induction states generalizing index with
  | nil => simp at found
  | cons first states ih =>
    cases index with
    | zero =>
      have same : first = state := by simpa using found
      subst same
      exact .cons changes (List.forall₂_same.mpr fun state _ => stays state)
    | succ index =>
      exact .cons (stays first) (ih (by simpa using found))

theorem forall₂_trans
    (joins : ∀ before middle after, rel before middle → rel middle after →
      rel before after)
    {before middle after : List σ}
    (first : List.Forall₂ rel before middle)
    (second : List.Forall₂ rel middle after) :
    List.Forall₂ rel before after := by
  induction first generalizing after with
  | nil => exact second
  | cons head tail ih =>
    cases second with
    | cons next rest => exact .cons (joins _ _ _ head next) (ih rest)

theorem changes_inParallel {ticks : List (Ticker σ β)}
    {minSuccess maxFailures : Nat}
    (stays : ∀ state, rel state state)
    (joins : ∀ before middle after, rel before middle → rel middle after →
      rel before after)
    (each : ∀ tick ∈ ticks, tick.Changes rel)
    (order : List Nat) (successes failures : Nat) :
    (inParallel ticks minSuccess maxFailures order successes
      failures).Changes (List.Forall₂ rel) := by
  induction order generalizing successes failures with
  | nil =>
    intro states board step ends
    cases ends
    exact List.forall₂_same.mpr fun state _ => stays state
  | cons index order ih =>
    intro states board step ends
    simp only [inParallel] at ends
    cases found : ticks[index]? with
    | none =>
      rw [found] at ends
      cases ends
    | some tick =>
      cases remembered : states[index]? with
      | none =>
        rw [found, remembered] at ends
        cases ends
      | some state =>
        rw [found, remembered] at ends
        rcases exists_of_bind ends with ⟨first, ticked, goes⟩
        have member := List.mem_of_getElem? found
        have changes : List.Forall₂ rel states
            (states.set index first.state) :=
          forall₂_set stays remembered (each tick member _ _ _ ticked)
        have further : ∀ successes failures,
            inParallel ticks minSuccess maxFailures order successes failures
              (states.set index first.state) first.board = .ok step →
            List.Forall₂ rel states step.state :=
          fun _ _ tickedOn =>
            forall₂_trans joins changes (ih _ _ _ _ _ tickedOn)
        cases answer : first.status with
        | success =>
          simp only [answer] at goes
          split at goes
          · cases goes
            exact changes
          · exact further _ _ goes
        | failure =>
          simp only [answer] at goes
          split at goes
          · cases goes
            exact changes
          · exact further _ _ goes
        | running =>
          simp only [answer] at goes
          exact further _ _ goes

/-- What a loop remembers changes with its child, and the count grows by no more
than the bound. -/
theorem changes_untilFailure
    (joins : ∀ before middle after, rel before middle → rel middle after →
      rel before after)
    (changes : tick.Changes rel) (bound : Nat) :
    (tick.untilFailure bound).Changes fun before after =>
      rel before.1 after.1 ∧ after.2 ≤ before.2 + bound := by
  induction bound with
  | zero =>
    intro state board step ends
    cases ends
  | succ bound ih =>
    intro state board step ends
    rcases exists_of_bind ends with ⟨first, ticked, goes⟩
    have begins := changes _ _ _ ticked
    cases answer : first.status with
    | success =>
      rw [answer] at goes
      rcases ih _ _ _ goes with ⟨further, within⟩
      refine ⟨joins _ _ _ begins further, ?_⟩
      simp only at within
      omega
    | failure | running =>
      rw [answer] at goes
      cases goes
      exact ⟨begins, by simp only; omega⟩

theorem changes_mapStatus {change : Status → Status}
    (changes : tick.Changes rel) :
    (tick.mapStatus change).Changes fun before after =>
      rel before.1 after.1 ∧ after.2 = before.2 := by
  intro state board step ends
  rcases exists_of_bind ends with ⟨first, ticked, same⟩
  cases same
  exact ⟨changes _ _ _ ticked, rfl⟩

end Ticker

/-! ## Paces -/

/-- A loop goes on until a failure and counts anew with each tick. -/
def Kind.loopsAnew : Kind μ β → Bool
  | decorator (.retry ..) => false
  | decorator (.repeated ..) => false
  | decorator (.untilFailure reset) => reset
  | _ => true

/-- A count that is within the bound, or as it was. -/
def Within (bound before after : Nat) : Prop := after = before ∨ after ≤ bound

namespace Trace

/-- Every count of a trace is within the bound, or as it was. -/
def Paced (bound : Nat) (before after : Trace μ) : Prop :=
  List.Forall₂ (fun before after => Within bound before.count after.count)
    before.nodes after.nodes

theorem Paced.refl (trace : Trace μ) : Paced bound trace trace :=
  List.forall₂_same.mpr fun _ _ => .inl rfl

theorem Paced.trans {before middle after : Trace μ}
    (first : Paced bound before middle)
    (second : Paced bound middle after) :
    Paced bound before after := by
  refine Ticker.forall₂_trans ?_ first second
  rintro before middle after earlier (same | within)
  · rw [same]
    exact earlier
  · exact .inr within

theorem nodesOfList_eq_flatMap (traces : List (Trace μ)) :
    nodesOfList traces = traces.flatMap nodes := by
  induction traces with
  | nil => rfl
  | cons trace traces ih => rw [nodesOfList, List.flatMap_cons, ih]

theorem paced_node {status last : Option Status} {count next : Nat}
    {memory remembered : Option μ} {before after : List (Trace μ)}
    (within : Within bound count next)
    (paced : List.Forall₂ (Paced bound) before after) :
    Paced bound (.node status count memory before)
      (.node last next remembered after) := by
  rw [Paced, nodes, nodes, nodesOfList_eq_flatMap, nodesOfList_eq_flatMap]
  exact .cons within (List.rel_flatMap paced fun _ _ paced => paced)

end Trace

namespace Tree

open Trace

theorem paced_ticker [Blackboard β] {kind : Kind μ β}
    {ticks : List (Ticker (Trace μ) β)}
    (anew : kind.loopsAnew = true)
    (each : ∀ tick ∈ ticks, tick.Changes (Paced bound)) :
    (kind.ticker bound ticks).Changes (Paced bound) := by
  have joins : ∀ before middle after : Trace μ, Paced bound before middle →
      Paced bound middle after → Paced bound before after :=
    fun _ _ _ => Paced.trans
  rintro ⟨status, count, memory, traces⟩ board step ends
  cases kind with
  | sequence | fallback =>
    rcases exists_of_bind ends with ⟨first, ticked, same⟩
    cases same
    exact paced_node (.inl rfl)
      (Ticker.changes_inOrder Paced.refl each _ _ _ ticked)
  | parallel minSuccess =>
    rcases exists_of_bind ends with ⟨first, ticked, same⟩
    cases same
    rw [Ticker.parallel] at ticked
    split at ticked
    · cases ticked
    · exact paced_node (.inl rfl)
        (Ticker.changes_inParallel Paced.refl joins each _ _ _ _ _ _ ticked)
  | decorator transform =>
    cases traces with
    | nil => cases ends
    | cons trace traces =>
      cases ticks with
      | nil => cases ends
      | cons tick ticks =>
        rcases exists_of_bind ends with ⟨first, ticked, same⟩
        cases same
        have child := each tick (by simp)
        have others : List.Forall₂ (Paced bound) traces traces :=
          List.forall₂_same.mpr fun trace _ => Paced.refl trace
        cases transform with
        | invert | forceSuccess | forceFailure | forceRunning
        | runningIsSuccess | runningIsFailure =>
          rw [Decorator.ticker] at ticked
          rcases Ticker.changes_mapStatus child _ _ _ ticked with
            ⟨paced, kept⟩
          exact paced_node (.inl kept) (.cons paced others)
        | retry | repeated => cases anew
        | untilFailure reset =>
          have resets : reset = true := anew
          subst resets
          rcases Ticker.changes_untilFailure joins child bound _ _ _
            ticked with ⟨paced, grows⟩
          refine paced_node (.inr ?_) (.cons paced others)
          simpa [Decorator.resets] using grows
  | leaf behavior =>
    cases ends
    exact paced_node (.inl rfl)
      (List.forall₂_same.mpr fun trace _ => Paced.refl trace)

mutual

/-- No tick makes a count exceed the bound. -/
theorem tick_paced [Blackboard β] :
    (tree : Tree ι μ β) →
      (∀ part ∈ tree.nodes, part.kind.loopsAnew = true) →
      (tree.tick bound).Changes (Paced bound)
  | node id name kind children, anew => by
    rw [tick]
    refine paced_ticker (anew (node id name kind children) ?_)
      (ticks_paced children ?_)
    · rw [nodes]
      exact List.mem_cons_self
    · intro part member
      refine anew part ?_
      rw [nodes]
      exact List.mem_cons_of_mem _ member

theorem ticks_paced [Blackboard β] :
    (trees : List (Tree ι μ β)) →
      (∀ part ∈ nodesOfList trees, part.kind.loopsAnew = true) →
      ∀ tick ∈ tickers bound trees, tick.Changes (Paced bound)
  | [], _ => by simp [tickers]
  | tree :: trees, anew => by
    rw [nodesOfList] at anew
    intro tick member
    rw [tickers] at member
    rcases List.mem_cons.mp member with rfl | member
    · refine tick_paced tree fun part among => anew part ?_
      exact List.mem_append_left _ among
    · refine ticks_paced trees (fun part among => anew part ?_) tick member
      exact List.mem_append_right _ among

end

mutual

/-- Setting up leaves all counts alone. -/
theorem setup_paced :
    (tree : Tree ι μ β) → (trace : Trace μ) → (board : β) →
      Paced bound trace (tree.setup trace board).1
  | node _ _ kind children, .node status count memory traces, board => by
    rw [setup]
    exact paced_node (.inl rfl) (setupList_paced children traces _)

theorem setupList_paced :
    (trees : List (Tree ι μ β)) → (traces : List (Trace μ)) → (board : β) →
      List.Forall₂ (Paced bound) traces (setupList trees traces board).1
  | tree :: trees, trace :: traces, board => by
    rw [setupList]
    exact .cons (setup_paced tree trace board)
      (setupList_paced trees traces _)
  | [], traces, board => by
    rw [setupList]
    · exact List.forall₂_same.mpr fun trace _ => Paced.refl trace
    all_goals simp
  | _ :: _, [], board => by
    rw [setupList]
    · exact .nil
    all_goals simp

end

mutual

theorem kinds_erase :
    (tree : Tree ι μ β) →
      tree.erase.nodes.map Tree.kind = tree.nodes.map Tree.kind
  | node id name kind children => by
    rw [erase, nodes, nodes, List.map_cons, List.map_cons,
      kinds_eraseList children]
    rfl

theorem kinds_eraseList :
    (trees : List (Tree ι μ β)) →
      (nodesOfList (eraseList trees)).map Tree.kind =
        (nodesOfList trees).map Tree.kind
  | [] => rfl
  | tree :: trees => by
    rw [eraseList, nodesOfList, nodesOfList, List.map_append,
      List.map_append, kinds_erase tree, kinds_eraseList trees]

end

end Tree

/-! ## Live nodes -/

namespace Tree

/-- A loop that counts anew counts no further than the bound. -/
theorem count_le_of_tick [Blackboard β] {id : ι} {name : String}
    {children : List (Tree ι μ β)} {trace : Trace μ} {board : β}
    {step : Step (Trace μ) β}
    (ticked : (node id name (.decorator (.untilFailure true)) children).tick
      bound trace board = .ok step) :
    step.state.count ≤ bound := by
  rcases trace with ⟨status, count, memory, traces⟩
  rw [tick] at ticked
  cases traces with
  | nil => cases ticked
  | cons trace traces =>
    cases children with
    | nil => cases ticked
    | cons child children =>
      rcases exists_of_bind ticked with ⟨looped, went, same⟩
      cases same
      have anything : (child.tick bound).Changes fun _ _ => True :=
        fun _ _ _ _ => trivial
      have grows := Ticker.changes_untilFailure (fun _ _ _ _ _ => trivial)
        anything bound _ _ _ went
      simpa [Decorator.resets, Trace.count] using grows.2

end Tree

namespace LiveNode

theorem forall₂_loopCounts {nodes : List (Node μ β)}
    {before after : List (Trace μ)}
    (paced : List.Forall₂
      (fun before after => Within bound before.count after.count)
      before after) :
    List.Forall₂ (Within bound) ((nodes.zip before).filterMap loopCount?)
      ((nodes.zip after).filterMap loopCount?) := by
  induction paced generalizing nodes with
  | nil => simp
  | cons within _ ih =>
    cases nodes with
    | nil => simp
    | cons node nodes =>
      rw [List.zip_cons_cons, List.zip_cons_cons, List.filterMap_cons,
        List.filterMap_cons]
      by_cases loops : node.kind.isLoop = true
      · simp only [loopCount?, loops, if_true]
        exact .cons within ih
      · simp only [loopCount?, loops]
        exact ih

/-- Where no node below the root is a loop, there is no count but that of the
root. -/
theorem eq_count_of_mem_loopCounts {live : LiveNode μ β} {count : Nat}
    (single : ∀ part ∈ Tree.nodesOfList live.node.children,
      part.kind.isLoop = false)
    (member : count ∈ live.loopCounts) :
    count = live.trace.count := by
  rcases live with ⟨⟨id, name, kind, children⟩,
    ⟨status, reached, memory, traces⟩⟩
  simp only [loopCounts, entries, Tree.nodes, Trace.nodes,
    List.zip_cons_cons] at member
  rcases List.mem_filterMap.mp member with ⟨entry, listed, found⟩
  rcases List.mem_cons.mp listed with rfl | listed
  · simp only [loopCount?] at found
    split at found
    · exact (Option.some.inj found).symm
    · cases found
  · have noLoop := single entry.1 (List.of_mem_zip listed).1
    simp [loopCount?, noLoop] at found

/-- The kinds of nodes are those of the specification that is hosted. -/
theorem Hosts.all_kinds {live : LiveNode μ β} {spec : Spec μ β}
    {holds : Kind μ β → Bool}
    (hosts : live.Hosts spec)
    (all : spec.nodes.all (fun part => holds part.kind) = true) :
    ∀ part ∈ live.node.nodes, holds part.kind = true := by
  intro part member
  have same := Tree.kinds_erase live.node
  rw [hosts.erased] at same
  have among : part.kind ∈ spec.nodes.map Tree.kind :=
    same ▸ List.mem_map_of_mem member
  rcases List.mem_map.mp among with ⟨origin, listed, kind⟩
  rw [← kind]
  exact List.all_eq_true.mp all origin listed

end LiveNode

namespace BehaviorTree

/-- A tick of a behavior tree is one of its node, after the setup. -/
theorem exists_of_tick [Blackboard β] {tree next : BehaviorTree μ β}
    {status : Status}
    (ticked : tree.tick bound = .ok (status, next)) :
    ∃ step, tree.root.node.tick bound tree.setup.root.trace tree.setup.board =
        .ok step ∧
      next.root = ⟨tree.root.node, step.state⟩ := by
  have sameNode : tree.setup.root.node = tree.root.node := by
    rw [setup]
    split
    · rfl
    · rfl
  rcases exists_of_bind ticked with ⟨outer, stepped, same⟩
  cases same
  rcases exists_of_bind stepped with ⟨inner, ran, same⟩
  cases same
  rw [sameNode] at ran
  exact ⟨inner, ran, by rw [sameNode]⟩

theorem setup_paced (tree : BehaviorTree μ β) :
    Trace.Paced bound tree.root.trace tree.setup.root.trace := by
  rw [setup]
  split
  · exact .refl _
  · exact Tree.setup_paced _ _ _

/-- A tick keeps the count of each loop, or leaves one within the bound. -/
theorem loopCounts_within [Blackboard β] {tree next : BehaviorTree μ β}
    {spec : Spec μ β} {status : Status}
    (hosts : tree.root.Hosts spec)
    (anew : spec.nodes.all (fun part => part.kind.loopsAnew) = true)
    (ticked : tree.tick bound = .ok (status, next)) :
    List.Forall₂ (Within bound) tree.root.loopCounts next.root.loopCounts := by
  rcases exists_of_tick ticked with ⟨step, ran, root⟩
  have paced := Tree.tick_paced _ (hosts.all_kinds anew) _ _ _ ran
  rw [root]
  exact LiveNode.forall₂_loopCounts ((setup_paced tree).trans paced)

/-- Where the loop is at the root and there is no other one, its count is within
the bound. -/
theorem loopCounts_le [Blackboard β] {tree next : BehaviorTree μ β}
    {name : String} {child : Spec μ β} {status : Status}
    (hosts : tree.root.Hosts (Spec.untilFailure name child))
    (single : child.nodes.all (fun part => !part.kind.isLoop) = true)
    (ticked : tree.tick bound = .ok (status, next)) :
    ∀ count ∈ next.root.loopCounts, count ≤ bound := by
  intro count member
  rcases exists_of_tick ticked with ⟨step, ran, root⟩
  rw [root] at member
  have erased := hosts.erased
  rcases shape : tree.root.node with ⟨id, label, kind, children⟩
  rw [shape] at ran erased member
  rw [Tree.erase] at erased
  injection erased with _ _ sameKind sameChildren
  subst sameKind
  have others : ∀ part ∈ Tree.nodesOfList children,
      part.kind.isLoop = false := by
    intro part among
    have kinds := Tree.kinds_eraseList children
    rw [sameChildren, Tree.nodesOfList_eq_flatMap [child],
      List.flatMap_singleton] at kinds
    have listed : part.kind ∈ child.nodes.map Tree.kind :=
      kinds ▸ List.mem_map_of_mem among
    rcases List.mem_map.mp listed with ⟨origin, found, kind⟩
    rw [← kind]
    simpa using List.all_eq_true.mp single origin found
  rw [LiveNode.eq_count_of_mem_loopCounts others member]
  exact Tree.count_le_of_tick ran

end BehaviorTree

end Disclosure
