import Disclosure.Proofs.Tree.Answers
import Disclosure.Proofs.Tree.Safety

/-!
# Parallel nodes do not depend on the order that is drawn

A parallel node ticks its children in an order that it draws, and stops as soon as
enough have succeeded or so many have failed that the others cannot make up for it.
Where the answers of the children are foretold, whatever the blackboard is, so is
the answer of the node: it depends on how many children would succeed and how many
would fail, and both cannot be enough.  The order only says which children are
ticked for that: the first ones of it up to the one that decides, or all.
-/

namespace Disclosure

variable {ι σ μ β : Type}

/-! ## Verdicts -/

namespace Status

/-- There are enough successes or too many failures. -/
def Decided (minSuccess maxFailures : Nat) (answers : List Status) : Prop :=
  minSuccess ≤ answers.count success ∨ maxFailures < answers.count failure

instance (minSuccess maxFailures : Nat) (answers : List Status) :
    Decidable (Decided minSuccess maxFailures answers) :=
  inferInstanceAs (Decidable (_ ∨ _))

/-- What the answers of all children come to. -/
def verdict (minSuccess maxFailures : Nat) (answers : List Status) : Status :=
  if minSuccess ≤ answers.count success then success
  else if maxFailures < answers.count failure then failure
  else running

variable {minSuccess maxFailures : Nat} {answers later : List Status}

theorem verdict_of_undecided
    (undecided : ¬ Decided minSuccess maxFailures answers) :
    verdict minSuccess maxFailures answers = running := by
  rw [Decided, not_or] at undecided
  rw [verdict, if_neg undecided.1, if_neg undecided.2]

/-- The answer that decides is the verdict. -/
theorem verdict_of_newly_decided {answer : Status}
    (undecided : ¬ Decided minSuccess maxFailures answers)
    (decided : Decided minSuccess maxFailures (answers ++ [answer])) :
    verdict minSuccess maxFailures (answers ++ [answer]) = answer := by
  rw [Decided, not_or] at undecided
  rcases undecided with ⟨few, within⟩
  rw [Decided, List.count_append, List.count_append] at decided
  rw [verdict, List.count_append, List.count_append]
  cases answer with
  | success =>
    have enough : minSuccess ≤ answers.count success + 1 := by
      simpa [within] using decided
    simp [enough]
  | failure =>
    have tooMany : maxFailures < answers.count failure + 1 := by
      simpa [few] using decided
    simp [few, tooMany]
  | running => simp [few, within] at decided

/-- There are not children enough to cross both thresholds. -/
theorem not_both_decided
    (few : answers.length ≤ minSuccess + maxFailures) :
    ¬ (minSuccess ≤ answers.count success ∧
      maxFailures < answers.count failure) := by
  have total := count_add_count answers
  omega

theorem verdict_eq_success_iff :
    verdict minSuccess maxFailures answers = success ↔
      minSuccess ≤ answers.count success := by
  rw [verdict]
  split
  case isTrue enough => exact ⟨fun _ => enough, fun _ => rfl⟩
  case isFalse few =>
    split
    · exact ⟨nofun, fun enough => absurd enough few⟩
    · exact ⟨nofun, fun enough => absurd enough few⟩

theorem verdict_eq_failure_iff
    (few : answers.length ≤ minSuccess + maxFailures) :
    verdict minSuccess maxFailures answers = failure ↔
      maxFailures < answers.count failure := by
  have apart := not_both_decided few
  rw [verdict]
  split
  case isTrue enough =>
    exact ⟨nofun, fun tooMany => absurd ⟨enough, tooMany⟩ apart⟩
  case isFalse =>
    split
    case isTrue tooMany => exact ⟨fun _ => tooMany, fun _ => rfl⟩
    case isFalse within => exact ⟨nofun, fun tooMany => absurd tooMany within⟩

theorem verdict_eq_running_iff :
    verdict minSuccess maxFailures answers = running ↔
      answers.count success < minSuccess ∧
        answers.count failure ≤ maxFailures := by
  constructor
  · intro undecided
    rw [verdict] at undecided
    split at undecided
    · cases undecided
    · split at undecided
      · cases undecided
      · omega
  · rintro ⟨few, within⟩
    rw [verdict, if_neg (Nat.not_le.mpr few), if_neg (Nat.not_lt.mpr within)]

/-- Whatever is answered later, a decision stands. -/
theorem verdict_append
    (decided : Decided minSuccess maxFailures answers)
    (few : (answers ++ later).length ≤ minSuccess + maxFailures) :
    verdict minSuccess maxFailures (answers ++ later) =
      verdict minSuccess maxFailures answers := by
  have fewSoFar : answers.length ≤ minSuccess + maxFailures := by
    rw [List.length_append] at few
    omega
  rcases decided with enough | tooMany
  · rw [verdict_eq_success_iff.mpr enough, verdict_eq_success_iff,
      List.count_append]
    exact Nat.le_add_right_of_le enough
  · rw [(verdict_eq_failure_iff fewSoFar).mpr tooMany,
      verdict_eq_failure_iff few, List.count_append]
    exact Nat.lt_add_right _ tooMany

theorem verdict_perm {others : List Status} (same : answers.Perm others) :
    verdict minSuccess maxFailures answers =
      verdict minSuccess maxFailures others := by
  rw [verdict, verdict, same.count_eq, same.count_eq]

end Status

/-! ## The beginning of an order -/

/-- The shortest beginning of a list that is enough, or all of it. -/
structure Until (enough : List Nat → Prop) (order beginning : List Nat) :
    Prop where
  begins : beginning <+: order
  shortest : ∀ shorter, shorter <+: beginning → shorter ≠ beginning →
    ¬ enough shorter
  ends : beginning = order ∨ enough beginning

namespace Until

variable {enough : List Nat → Prop} {place : Nat} {order beginning : List Nat}

theorem nothing (reached : order = [] ∨ enough []) : Until enough order [] where
  begins := List.nil_prefix
  shortest _ within other := absurd (List.prefix_nil.mp within) other
  ends := reached.imp_left Eq.symm

theorem cons (more : ¬ enough [])
    (rest : Until (fun places => enough (place :: places)) order beginning) :
    Until enough (place :: order) (place :: beginning) where
  begins := (List.prefix_cons_inj place).mpr rest.begins
  shortest shorter within other := by
    cases shorter with
    | nil => exact more
    | cons first shorter =>
      obtain ⟨rfl, withinRest⟩ := List.cons_prefix_cons.mp within
      exact rest.shortest shorter withinRest fun same =>
        other (congrArg _ same)
  ends := rest.ends.imp_left (congrArg _)

end Until

/-! ## Visits -/

namespace Ticker

/-- Those at some places are ticked one after the other, and nothing else is done. -/
inductive Visits (ticks : List (Ticker σ β)) :
    List Nat → List σ → β → List σ → β → Prop where
  | none {states : List σ} {board : β} : Visits ticks [] states board states board
  | next {place : Nat} {places : List Nat} {states last : List σ}
      {board after : β} {tick : Ticker σ β} {state : σ} {step : Step σ β}
      (found : ticks[place]? = some tick)
      (here : states[place]? = some state)
      (ticked : tick state board = .ok step)
      (rest : Visits ticks places (states.set place step.state) step.board last
        after) :
    Visits ticks (place :: places) states board last after

/-- Who is not visited stays as it is. -/
theorem Visits.unvisited {ticks : List (Ticker σ β)} {places : List Nat}
    {states last : List σ} {board after : β}
    (visits : Visits ticks places states board last after)
    {other : Nat}
    (passed : other ∉ places) :
    last[other]? = states[other]? := by
  induction visits with
  | none => rfl
  | next _ _ _ _ ih =>
    rw [List.mem_cons, not_or] at passed
    rw [ih passed.2, List.getElem?_set_ne (Ne.symm passed.1)]

/-- There is something to tick at the place, and its answer is this one on every
blackboard. -/
def Foretold (ticks : List (Ticker σ β)) (states : List σ)
    (outcome : Nat → Status) (place : Nat) : Prop :=
  ∃ tick state, ticks[place]? = some tick ∧ states[place]? = some state ∧
    ∀ board, ∃ step, tick state board = .ok step ∧ step.status = outcome place

theorem Foretold.set {ticks : List (Ticker σ β)} {states : List σ}
    {outcome : Nat → Status} {place other : Nat} {state : σ}
    (foretold : Foretold ticks states outcome other)
    (apart : place ≠ other) :
    Foretold ticks (states.set place state) outcome other := by
  rcases foretold with ⟨tick, remembered, found, here, foretells⟩
  refine ⟨tick, remembered, found, ?_, foretells⟩
  rw [List.getElem?_set_ne apart]
  exact here

/-- The answer of the child that comes next decides, or the others go on with it. -/
theorem inParallel_cons {ticks : List (Ticker σ β)}
    {minSuccess maxFailures place : Nat} (order : List Nat)
    {earlier : List Status}
    {states : List σ} {board : β} {tick : Ticker σ β} {state : σ}
    {step : Step σ β}
    (undecided : ¬ Status.Decided minSuccess maxFailures earlier)
    (found : ticks[place]? = some tick)
    (here : states[place]? = some state)
    (ticked : tick state board = .ok step) :
    inParallel ticks minSuccess maxFailures (place :: order)
        (earlier.count .success) (earlier.count .failure) states board =
      if Status.Decided minSuccess maxFailures (earlier ++ [step.status]) then
        .ok ⟨step.status, states.set place step.state, step.board⟩
      else
        inParallel ticks minSuccess maxFailures order
          ((earlier ++ [step.status]).count .success)
          ((earlier ++ [step.status]).count .failure)
          (states.set place step.state) step.board := by
  rw [Status.Decided, not_or] at undecided
  rcases undecided with ⟨few, within⟩
  simp only [inParallel, found, here, ticked, bind, Except.bind, pure,
    Except.pure, Status.Decided, List.count_append]
  rcases step with ⟨status, state, board⟩
  cases status with
  | success => simp [within]
  | failure => simp [few]
  | running => simp [few, within]

/-- The beginning of the order that decides is visited, and the answer is the verdict
on it. -/
theorem exists_visits_inParallel {ticks : List (Ticker σ β)}
    {outcome : Nat → Status} {minSuccess maxFailures : Nat} {order : List Nat}
    (distinct : order.Nodup)
    {earlier : List Status}
    (undecided : ¬ Status.Decided minSuccess maxFailures earlier)
    {states : List σ}
    (foretold : ∀ place ∈ order, Foretold ticks states outcome place)
    (board : β) :
    ∃ visited step,
      Until (fun places => Status.Decided minSuccess maxFailures
        (earlier ++ places.map outcome)) order visited ∧
      inParallel ticks minSuccess maxFailures order (earlier.count .success)
        (earlier.count .failure) states board = .ok step ∧
      step.status = Status.verdict minSuccess maxFailures
        (earlier ++ visited.map outcome) ∧
      Visits ticks visited states board step.state step.board := by
  -- the answer of the child that comes next moves over to the earlier ones
  induction order generalizing earlier states board with
  | nil =>
    refine ⟨[], _, .nothing (.inl rfl), rfl, ?_, .none⟩
    rw [List.map_nil, List.append_nil, Status.verdict_of_undecided undecided]
  | cons place order ih =>
    obtain ⟨fresh, distinctRest⟩ := List.nodup_cons.mp distinct
    obtain ⟨tick, state, found, here, foretells⟩ :=
      foretold place (List.mem_cons_self ..)
    obtain ⟨first, ticked, answered⟩ := foretells board
    have foretoldRest : ∀ other ∈ order,
        Foretold ticks (states.set place first.state) outcome other := by
      intro other among
      exact (foretold other (List.mem_cons_of_mem _ among)).set
        fun same => fresh (same ▸ among)
    have more : ¬ Status.Decided minSuccess maxFailures
        (earlier ++ List.map outcome []) := by
      rw [List.map_nil, List.append_nil]
      exact undecided
    have goes := inParallel_cons order undecided found here ticked
    rw [answered] at goes
    by_cases decides : Status.Decided minSuccess maxFailures
        (earlier ++ [outcome place])
    · rw [if_pos decides] at goes
      refine ⟨[place], _, .cons more (.nothing (.inr decides)), goes, ?_,
        .next found here ticked .none⟩
      exact (Status.verdict_of_newly_decided undecided decides).symm
    · rw [if_neg decides] at goes
      obtain ⟨visited, step, shortest, ends, answer, visits⟩ :=
        ih distinctRest decides foretoldRest first.board
      simp only [List.append_assoc, List.singleton_append] at shortest answer
      exact ⟨place :: visited, step, .cons more shortest, goes.trans ends,
        answer, .next found here ticked visits⟩

end Ticker

/-! ## Drawing an order -/

section Drawing

variable [Blackboard β]

/-- The order in which so many children are ticked, and the blackboard after it was
drawn. -/
def Blackboard.drawOrder (children : Nat) (board : β) : List Nat × β :=
  let (order, stream) :=
    (Blackboard.random board).shuffle (List.range children)
  (order, Blackboard.setRandom stream board)

theorem Blackboard.drawOrder_perm (children : Nat) (board : β) :
    (Blackboard.drawOrder children board).1.Perm (List.range children) :=
  RandomStream.shuffle_perm _ _

/-- The verdict on those that were visited is the verdict on all. -/
theorem Until.verdict {minSuccess children : Nat} {outcome : Nat → Status}
    {order visited : List Nat}
    (shortest : Until (fun places => Status.Decided minSuccess
      (children - minSuccess) (places.map outcome)) order visited)
    (all : order.Perm (List.range children)) :
    Status.verdict minSuccess (children - minSuccess) (visited.map outcome) =
      Status.verdict minSuccess (children - minSuccess)
        ((List.range children).map outcome) := by
  rw [← Status.verdict_perm (all.map outcome)]
  rcases shortest.ends with same | decided
  · rw [same]
  · obtain ⟨rest, rfl⟩ := shortest.begins
    have places := all.length_eq
    rw [List.length_range] at places
    rw [List.map_append, Status.verdict_append decided]
    rw [← List.map_append, List.length_map, places]
    omega

namespace Ticker

/-- A parallel node whose children are foretold comes to the verdict on all of them,
and has visited those that it needed for that. -/
theorem exists_visits_parallel {ticks : List (Ticker σ β)}
    {outcome : Nat → Status} {minSuccess : Nat} {states : List σ}
    (positive : 1 ≤ minSuccess)
    (within : minSuccess ≤ ticks.length)
    (foretold : ∀ place < ticks.length, Foretold ticks states outcome place)
    (board : β) :
    ∃ visited step,
      Until (fun places => Status.Decided minSuccess
        (ticks.length - minSuccess) (places.map outcome))
        (Blackboard.drawOrder ticks.length board).1 visited ∧
      parallel minSuccess ticks states board = .ok step ∧
      step.status = Status.verdict minSuccess (ticks.length - minSuccess)
        ((List.range ticks.length).map outcome) ∧
      Visits ticks visited states
        (Blackboard.drawOrder ticks.length board).2 step.state step.board := by
  have permuted := Blackboard.drawOrder_perm ticks.length board
  have undecided : ¬ Status.Decided minSuccess (ticks.length - minSuccess) [] := by
    rintro (enough | tooMany)
    · exact absurd (Nat.le_trans positive enough) (by decide)
    · exact absurd tooMany (Nat.not_lt_zero _)
  obtain ⟨visited, step, shortest, ends, answer, visits⟩ :=
    exists_visits_inParallel (permuted.nodup_iff.mpr List.nodup_range) undecided
      (fun place among =>
        foretold place (List.mem_range.mp (permuted.mem_iff.mp among)))
      (Blackboard.drawOrder ticks.length board).2
  simp only [List.nil_append] at shortest answer
  refine ⟨visited, step, shortest, ?_, answer.trans (shortest.verdict permuted),
    visits⟩
  rw [parallel, if_neg (Nat.not_lt.mpr within)]
  exact ends

end Ticker

/-! ## In built trees -/

/-- Whatever the blackboard, a tick of the tree from this trace gives this answer. -/
def Tree.Foretells (bound : Nat) (tree : Tree ι μ β) (trace : Trace μ)
    (answer : Status) : Prop :=
  ∀ board, ∃ step, tree.tick bound trace board = .ok step ∧ step.status = answer

/-- What children foretell is foretold of their tickers. -/
theorem Tree.foretold_tick {bound : Nat} {trees : List (Tree ι μ β)}
    {traces : List (Trace μ)} {outcome : Nat → Status}
    (sameLength : traces.length = trees.length)
    (foretells : ∀ (place : Nat) (child : Tree ι μ β) (trace : Trace μ),
      trees[place]? = some child → traces[place]? = some trace →
        child.Foretells bound trace (outcome place)) :
    ∀ place < (trees.map (Tree.tick bound)).length,
      Ticker.Foretold (trees.map (Tree.tick bound)) traces outcome place := by
  intro place inside
  rw [List.length_map] at inside
  have child := List.getElem?_eq_getElem inside
  have trace := List.getElem?_eq_getElem (sameLength ▸ inside)
  refine ⟨_, _, ?_, trace, foretells place _ _ child trace⟩
  rw [List.getElem?_map, child]
  rfl

/--
A parallel node answers alike in any order: in a built tree, when each child of the
node would give the same answer on every blackboard, the node succeeds if as many
children would succeed as it needs, fails if so many would fail that the others
cannot make up for them, and is running otherwise; the first two never come
together.  It draws an order of all its children and visits the shortest beginning
of it that decides, or all if none does, each child once and one after the other;
the others keep what they remember, their status included.
-/
theorem parallel_answers_in_any_order
    (builder last : Builder)
    (spec : Spec μ β)
    (node part : Node μ β)
    (built : builder.build spec = (.ok node, last))
    (among : part ∈ node.nodes)
    (minSuccess : Nat)
    (polls : part.kind = .parallel minSuccess)
    (bound : Nat)
    (trace : Trace μ)
    (fits : trace.Fits part)
    (outcome : Nat → Status)
    (foretells : ∀ (place : Nat) (child : Node μ β) (remembered : Trace μ),
      part.children[place]? = some child →
      trace.children[place]? = some remembered →
        child.Foretells bound remembered (outcome place))
    (board : β) :
    let children := part.children.length
    let answers := (List.range children).map outcome
    let drawn := Blackboard.drawOrder children board
    ∃ step visited, part.tick bound trace board = .ok step ∧
      (step.status = .success ↔ minSuccess ≤ answers.count .success) ∧
      (step.status = .failure ↔
        children - minSuccess < answers.count .failure) ∧
      (step.status = .running ↔ answers.count .success < minSuccess ∧
        answers.count .failure ≤ children - minSuccess) ∧
      ¬ (minSuccess ≤ answers.count .success ∧
        children - minSuccess < answers.count .failure) ∧
      drawn.1.Perm (List.range children) ∧
      Until (fun places => Status.Decided minSuccess (children - minSuccess)
        (places.map outcome)) drawn.1 visited ∧
      visited.Nodup ∧
      Ticker.Visits (part.children.map (Tree.tick bound)) visited
        trace.children drawn.2 step.state.children step.board ∧
      ∀ place, place ∉ visited →
        step.state.children[place]? = trace.children[place]? := by
  have admits := Builder.apt_of_build spec built part among
  rw [polls] at admits
  obtain ⟨_, positive, within⟩ := admits
  rcases part with ⟨id, name, kind, children⟩
  rcases trace with ⟨status, count, memory, traces⟩
  cases polls
  have sameLength := ((Trace.fits_node ..).mp fits).length_eq
  have foretold := Tree.foretold_tick sameLength foretells
  obtain ⟨visited, step, shortest, ends, answer, visits⟩ :=
    Ticker.exists_visits_parallel positive
      (by rw [List.length_map]; exact within) foretold board
  rw [List.length_map] at shortest answer visits
  intro total answers drawn
  have few : answers.length ≤ minSuccess + (total - minSuccess) := by
    rw [List.length_map, List.length_range]
    omega
  have permuted := Blackboard.drawOrder_perm total board
  have distinct := permuted.nodup_iff.mpr List.nodup_range
  refine ⟨⟨step.status, .node step.status count memory step.state, step.board⟩,
    visited, ?_, ?_, ?_, ?_, Status.not_both_decided few, permuted, shortest,
    shortest.begins.sublist.nodup distinct, visits,
    fun place passed => visits.unvisited passed⟩
  · rw [Tree.tick, Tree.tickers_eq_map, Kind.ticker, ends]
    rfl
  · rw [answer]
    exact Status.verdict_eq_success_iff
  · rw [answer]
    exact Status.verdict_eq_failure_iff few
  · rw [answer]
    exact Status.verdict_eq_running_iff

end Drawing

/-- Two votes for and one against, where two are enough. -/
def voteSpec : Spec Nat Workbench :=
  .parallel "Vote" 2
    [.ofLeaf "For" (Workbench.player "for" #[.success]),
     .ofLeaf "Against" (Workbench.player "against" #[.failure]),
     .ofLeaf "Also" (Workbench.player "also" #[.success, .failure])]

/-- The vote as a builder of its own builds it. -/
def voteNode : Node Nat Workbench :=
  .node 1 "Vote" (.parallel 2)
    [.node 2 "For" (.leaf (Workbench.player "for" #[.success])) [],
     .node 3 "Against" (.leaf (Workbench.player "against" #[.failure])) [],
     .node 4 "Also" (.leaf (Workbench.player "also" #[.success, .failure])) []]

/-- How the votes are going to be cast. -/
def voteOutcome (place : Nat) : Status :=
  if place = 1 then .failure else .success

/-- Each voter sticks to its vote, whatever the blackboard is. -/
theorem voteNode_foretells (place : Nat) (child : Node Nat Workbench)
    (remembered : Trace Nat)
    (found : voteNode.children[place]? = some child)
    (here : (Trace.blank voteNode).children[place]? = some remembered) :
    child.Foretells 1 remembered (voteOutcome place) := by
  match place with
  | 0 | 1 | 2 =>
    cases found
    cases here
    exact fun board => ⟨_, rfl, rfl⟩
  | place + 3 => cases found

theorem voteNode_drawn :
    (Blackboard.drawOrder 3 (Workbench.new (.ofSeed 7) none)).1 = [2, 0, 1] := by
  decide +kernel

/-- The two votes for are drawn first, so that the one against is not cast. -/
theorem vote_answers_in_any_order :
    ∃ last step visited,
      Builder.fresh.build voteSpec = (.ok voteNode, last) ∧
      voteNode.tick 1 (.blank voteNode) (.new (.ofSeed 7) none) = .ok step ∧
      step.status = .success ∧
      Until (fun places => Status.Decided 2 1 (places.map voteOutcome))
        [2, 0, 1] visited ∧
      visited = [2, 0] ∧
      step.state.children[1]? = (Trace.blank voteNode).children[1]? := by
  obtain ⟨step, visited, ends, succeeds, _, _, _, _, shortest, _, _, kept⟩ :=
    parallel_answers_in_any_order Builder.fresh ⟨4⟩ voteSpec voteNode voteNode
      rfl (List.mem_cons_self ..) 2 rfl 1 (.blank voteNode)
      (Trace.blank_fits voteNode) voteOutcome voteNode_foretells
      (.new (.ofSeed 7) none)
  have answered : step.status = .success := succeeds.mpr (by decide)
  have drawn : Until (fun places => Status.Decided 2 1 (places.map voteOutcome))
      [2, 0, 1] visited := voteNode_drawn ▸ shortest
  have two : visited = [2, 0] := by
    have among := drawn.begins
    simp only [List.prefix_cons_iff, List.prefix_nil] at among
    rcases among with rfl | ⟨_, rfl, rfl | ⟨_, rfl, rfl | ⟨_, rfl, rfl⟩⟩⟩
    · exact absurd drawn.ends (by decide)
    · exact absurd drawn.ends (by decide)
    · rfl
    · exact absurd (by decide) (drawn.shortest [2, 0] ⟨[1], rfl⟩ (by decide))
  exact ⟨_, step, visited, rfl, ends, answered, drawn, two,
    kept 1 (by rw [two]; decide)⟩

end Disclosure
