import Disclosure.Proofs.Tree.Law
import Disclosure.Proofs.Tree.Safety

/-!
# Stored statuses explain each other

Between ticks every node stores its last answer.  The answers that its children
store explain it, although a child may have been ticked several times, in any
order, or not at all: those that were not ticked have kept their answers, and the
answer of the parent does not depend on them.
-/

namespace Disclosure

open TickError

variable {ι σ μ β : Type}

/-! ## Explanations -/

/-- All have let through, or one of them gave the answer after the ones before it
had let through. -/
def Status.InOrder (through : Status) (statuses : List (Option Status))
    (answer : Status) : Prop :=
  if answer = through then ∀ status ∈ statuses, status = some through
  else
    ∃ before after, statuses = before ++ some answer :: after ∧
      ∀ earlier ∈ before, earlier = some through

/-- The threshold that the answer stands for is crossed; neither is when the answer
is that it is running, although all have answered. -/
def Status.Crosses (minSuccess maxFailures : Nat)
    (statuses : List (Option Status)) : Status → Prop
  | .success => minSuccess ≤ statuses.count (some .success)
  | .failure => maxFailures < statuses.count (some .failure)
  | .running => none ∉ statuses ∧
    statuses.count (some .success) < minSuccess ∧
    statuses.count (some .failure) ≤ maxFailures

/-- The answers of a decorator over that of its child. -/
inductive Decorator.Explains :
    Decorator → Option Status → Status → Prop where
  | invert (status : Status) : Explains .invert (some status) status.invert
  | forceSuccess (status : Status) :
    Explains .forceSuccess (some status) .success
  | forceFailure (status : Status) :
    Explains .forceFailure (some status) .failure
  | forceRunning (status : Status) :
    Explains .forceRunning (some status) .running
  | notFailed {status : Status} (other : status ≠ .failure) :
    Explains .runningIsSuccess (some status) .success
  | failed : Explains .runningIsSuccess (some .failure) .failure
  | notSucceeded {status : Status} (other : status ≠ .success) :
    Explains .runningIsFailure (some status) .failure
  | succeeded : Explains .runningIsFailure (some .success) .success
  | neverTried {reset : Bool} (child : Option Status) :
    Explains (.retry 0 reset) child .failure
  | tried {times : Nat} {reset : Bool} (some : 0 < times) (status : Status) :
    Explains (.retry times reset) (.some status) status
  | neverRepeated {reset : Bool} (child : Option Status) :
    Explains (.repeated 0 reset) child .success
  | repeated {times : Nat} {reset : Bool} (some : 0 < times)
      (status : Status) :
    Explains (.repeated times reset) (.some status) status
  | ended {reset : Bool} :
    Explains (.untilFailure reset) (some .failure) .success
  | goesOn {reset : Bool} :
    Explains (.untilFailure reset) (some .running) .running

/-- What the children of a node of this kind store explains an answer of it. -/
def Kind.Explains (statuses : List (Option Status)) (answer : Status) :
    Kind μ β → Prop
  | sequence => Status.InOrder .success statuses answer
  | fallback => Status.InOrder .failure statuses answer
  | parallel minSuccess =>
    Status.Crosses minSuccess (statuses.length - minSuccess) statuses answer
  | decorator transform =>
    ∃ child, statuses = [child] ∧ transform.Explains child answer
  | leaf _ => True

/-! ## Explained traces -/

namespace Trace

mutual

/-- The trace has the shape of the tree, and each answer that it stores is
explained by those right below it. -/
def Explained : Trace μ → Tree ι μ β → Prop
  | .node status _ _ traces, .node _ _ kind children =>
    (∀ answer, status = some answer →
      kind.Explains (traces.map Trace.status) answer) ∧
    ExplainedList traces children

/-- Several explained traces of as many trees. -/
def ExplainedList : List (Trace μ) → List (Tree ι μ β) → Prop
  | [], [] => True
  | trace :: traces, tree :: trees =>
    Explained trace tree ∧ ExplainedList traces trees
  | _, _ => False

end

theorem explainedList_iff_forall₂
    (traces : List (Trace μ)) (trees : List (Tree ι μ β)) :
    ExplainedList traces trees ↔ List.Forall₂ Explained traces trees := by
  induction traces generalizing trees with
  | nil => cases trees <;> simp [ExplainedList]
  | cons trace traces ih => cases trees <;> simp [ExplainedList, ih]

theorem explained_node
    (status : Option Status) (count : Nat) (memory : Option μ)
    (traces : List (Trace μ))
    (id : ι) (name : String) (kind : Kind μ β)
    (children : List (Tree ι μ β)) :
    Explained (.node status count memory traces)
        (.node id name kind children) ↔
      (∀ answer, status = some answer →
        kind.Explains (traces.map Trace.status) answer) ∧
      List.Forall₂ Explained traces children := by
  rw [Explained, explainedList_iff_forall₂]

/-- The status of the trace at some place. -/
def statusAt (traces : List (Trace μ)) (place : Nat) : Option Status :=
  traces[place]?.bind Trace.status

theorem map_statusAt_range (traces : List (Trace μ)) :
    (List.range traces.length).map (statusAt traces) =
      traces.map Trace.status := by
  apply List.ext_getElem
  · simp
  · intro place inside _
    have here : place < traces.length := by simpa using inside
    simp [statusAt, here]

theorem statusAt_set_of_ne {traces : List (Trace μ)} {trace : Trace μ}
    {place other : Nat}
    (apart : place ≠ other) :
    statusAt (traces.set place trace) other = statusAt traces other := by
  rw [statusAt, List.getElem?_set_ne apart, statusAt]

theorem statusAt_set_self {traces : List (Trace μ)} {trace : Trace μ}
    {place : Nat}
    (inside : place < traces.length) :
    statusAt (traces.set place trace) place = trace.status := by
  rw [statusAt, List.getElem?_set_self inside, Option.bind_some]

end Trace

/-! ## Tickers -/

namespace Ticker

/-- From what fits, a tick that has a result leaves what its answer demands. -/
def Leaves (fits : σ → Prop) (left : Status → σ → Prop)
    (tick : Ticker σ β) : Prop :=
  ∀ state board step, fits state → tick state board = .ok step →
    left step.status step.state

namespace Leaves

section Loops

variable {tick : Ticker (Trace μ) β} {fits : Trace μ → Prop}

/-- What fits, and stores the answer. -/
abbrev Stored (fits : Trace μ → Prop) (answer : Status) (trace : Trace μ) :
    Prop :=
  fits trace ∧ trace.status = some answer

variable (leaves : tick.Leaves fits (Stored fits))

include leaves

theorem mapStatus (change : Status → Status) :
    (tick.mapStatus change).Leaves (fun state => fits state.1)
      fun answer state => fits state.1 ∧
        ∃ status, state.1.status = some status ∧ answer = change status := by
  intro state board step fitting ends
  rcases exists_of_bind ends with ⟨first, ticked, same⟩
  cases same
  rcases leaves _ _ _ fitting ticked with ⟨fitsStill, stored⟩
  exact ⟨fitsStill, first.status, stored, rfl⟩

theorem repeatWhile (through : Status) (times : Nat) :
    (tick.repeatWhile through times).Leaves (fun state => fits state.1)
      fun answer state => fits state.1 ∧
        (times = 0 ∧ answer = through ∨
          0 < times ∧ state.1.status = some answer) := by
  induction times with
  | zero =>
    intro state board step fitting ends
    cases ends
    exact ⟨fitting, .inl ⟨rfl, rfl⟩⟩
  | succ times ih =>
    intro state board step fitting ends
    rcases exists_of_bind ends with ⟨first, ticked, goes⟩
    rcases leaves _ _ _ fitting ticked with ⟨fitsStill, stored⟩
    split at goes
    next goesOn =>
      rcases ih _ _ _ fitsStill goes with
        ⟨fitsThen, ⟨noMore, answered⟩ | ⟨_, storedThen⟩⟩
      · -- this was the last time, and what it stored is the answer
        subst noMore
        cases goes
        exact ⟨fitsThen, .inr ⟨Nat.zero_lt_one, goesOn ▸ stored⟩⟩
      · exact ⟨fitsThen, .inr ⟨Nat.succ_pos times, storedThen⟩⟩
    next =>
      cases goes
      exact ⟨fitsStill, .inr ⟨Nat.succ_pos times, stored⟩⟩

theorem untilFailure (bound : Nat) :
    (tick.untilFailure bound).Leaves (fun state => fits state.1)
      fun answer state => fits state.1 ∧
        (state.1.status = some .failure ∧ answer = .success ∨
          state.1.status = some .running ∧ answer = .running) := by
  induction bound with
  | zero =>
    intro state board step fitting ends
    cases ends
  | succ bound ih =>
    intro state board step fitting ends
    rcases exists_of_bind ends with ⟨first, ticked, goes⟩
    rcases leaves _ _ _ fitting ticked with ⟨fitsStill, stored⟩
    cases answer : first.status with
    | success =>
      rw [answer] at goes
      exact ih _ _ _ fitsStill goes
    | failure =>
      rw [answer] at goes
      cases goes
      exact ⟨fitsStill, .inl ⟨answer ▸ stored, rfl⟩⟩
    | running =>
      rw [answer] at goes
      cases goes
      exact ⟨fitsStill, .inr ⟨answer ▸ stored, rfl⟩⟩

/-- What the child of a decorator stores explains the answer. -/
theorem decorator (bound : Nat) (transform : Decorator) :
    (transform.ticker bound tick).Leaves (fun state => fits state.1)
      fun answer state => fits state.1 ∧
        transform.Explains state.1.status answer := by
  intro state board step fitting ends
  cases transform with
  | invert | forceSuccess | forceFailure | forceRunning =>
    rw [Decorator.ticker] at ends
    rcases leaves.mapStatus _ _ _ _ fitting ends with
      ⟨fitsStill, status, stored, answered⟩
    rw [stored, answered]
    exact ⟨fitsStill, by constructor⟩
  | runningIsSuccess =>
    rw [Decorator.ticker] at ends
    rcases leaves.mapStatus _ _ _ _ fitting ends with
      ⟨fitsStill, status, stored, answered⟩
    rw [stored, answered]
    refine ⟨fitsStill, ?_⟩
    cases status with
    | failure => exact .failed
    | success | running => exact .notFailed (by decide)
  | runningIsFailure =>
    rw [Decorator.ticker] at ends
    rcases leaves.mapStatus _ _ _ _ fitting ends with
      ⟨fitsStill, status, stored, answered⟩
    rw [stored, answered]
    refine ⟨fitsStill, ?_⟩
    cases status with
    | success => exact .succeeded
    | failure | running => exact .notSucceeded (by decide)
  | retry times reset =>
    rcases leaves.repeatWhile .failure times _ _ _ fitting ends with
      ⟨fitsStill, ⟨never, answered⟩ | ⟨some, stored⟩⟩
    · subst never
      rw [answered]
      exact ⟨fitsStill, .neverTried _⟩
    · rw [stored]
      exact ⟨fitsStill, .tried some _⟩
  | repeated times reset =>
    rcases leaves.repeatWhile .success times _ _ _ fitting ends with
      ⟨fitsStill, ⟨never, answered⟩ | ⟨some, stored⟩⟩
    · subst never
      rw [answered]
      exact ⟨fitsStill, .neverRepeated _⟩
    · rw [stored]
      exact ⟨fitsStill, .repeated some _⟩
  | untilFailure reset =>
    rcases leaves.untilFailure bound _ _ _ fitting ends with
      ⟨fitsStill, ⟨stored, answered⟩ | ⟨stored, answered⟩⟩
    · rw [stored, answered]
      exact ⟨fitsStill, .ended⟩
    · rw [stored, answered]
      exact ⟨fitsStill, .goesOn⟩

end Loops

/-! ### Several children -/

section Children

variable [Blackboard β] {bound : Nat} {trees : List (Tree ι μ β)}

/-- Each child of a node keeps its trace explained and stores its answer. -/
abbrev EachExplained (bound : Nat) (trees : List (Tree ι μ β)) : Prop :=
  ∀ tree ∈ trees, (tree.tick bound).Leaves (Trace.Explained · tree)
    (Stored (Trace.Explained · tree))

/-- Explained traces of the children of a node. -/
abbrev AllExplained (trees : List (Tree ι μ β)) (traces : List (Trace μ)) :
    Prop :=
  List.Forall₂ Trace.Explained traces trees

theorem inOrder (each : EachExplained bound trees) (through : Status) :
    (Ticker.inOrder through (trees.map (Tree.tick bound))).Leaves
      (AllExplained trees)
      fun answer traces => AllExplained trees traces ∧
        Status.InOrder through (traces.map Trace.status) answer := by
  induction trees with
  | nil =>
    intro traces board step fitting ends
    cases ends
    cases fitting
    exact ⟨.nil, by simp [Status.InOrder]⟩
  | cons tree trees ih =>
    intro traces board step fitting ends
    cases fitting with
    | cons here rest =>
      rcases exists_of_bind ends with ⟨first, ticked, goes⟩
      rcases each tree (by simp) _ _ _ here ticked with ⟨fits, stored⟩
      split at goes
      next goesOn =>
        rcases exists_of_bind goes with ⟨later, tickedOn, same⟩
        cases same
        have others : EachExplained bound trees :=
          fun other member => each other (by simp [member])
        rcases ih others _ _ _ rest tickedOn with ⟨fitAll, ordered⟩
        refine ⟨.cons fits fitAll, ?_⟩
        rw [goesOn] at stored
        rw [Status.InOrder, List.map_cons, stored]
        rw [Status.InOrder] at ordered
        split at ordered
        next all =>
          rw [if_pos all]
          exact List.forall_mem_cons.mpr ⟨rfl, ordered⟩
        next other =>
          rcases ordered with ⟨before, after, split, earlier⟩
          rw [if_neg other, split]
          exact ⟨some through :: before, after, rfl,
            List.forall_mem_cons.mpr ⟨rfl, earlier⟩⟩
      next stops =>
        cases goes
        refine ⟨.cons fits rest, ?_⟩
        rw [Status.InOrder, if_neg stops, List.map_cons, stored]
        exact ⟨[], _, rfl, by simp⟩

end Children

end Leaves

end Ticker

/-! ### In random order -/

namespace Trace

/-- At these places so many have succeeded and so many have failed, and all have
answered. -/
structure Tally (traces : List (Trace μ)) (places : List Nat)
    (successes failures : Nat) : Prop where
  answered : none ∉ places.map (statusAt traces)
  successes :
    (places.map (statusAt traces)).count (some .success) = successes
  failures : (places.map (statusAt traces)).count (some .failure) = failures

variable {traces : List (Trace μ)} {places : List Nat}
  {successes failures : Nat}

/-- One more place is counted, where the trace is a new one. -/
theorem Tally.set {trace : Trace μ} {place : Nat}
    (tally : Tally traces places successes failures)
    (answer : Status)
    (fresh : place ∉ places)
    (inside : place < traces.length)
    (stored : trace.status = some answer) :
    Tally (traces.set place trace) (places ++ [place])
      (successes + [answer].count .success)
      (failures + [answer].count .failure) := by
  have counted : (places ++ [place]).map (statusAt (traces.set place trace)) =
      places.map (statusAt traces) ++ [some answer] := by
    rw [List.map_append, List.map_singleton, statusAt_set_self inside, stored]
    congr 1
    apply List.map_congr_left
    intro other among
    exact statusAt_set_of_ne fun same => fresh (same ▸ among)
  constructor
  · rw [counted]
    simpa using tally.answered
  · rw [counted, List.count_append, tally.successes]
    cases answer <;> rfl
  · rw [counted, List.count_append, tally.failures]
    cases answer <;> rfl

/-- All places are counted or left over. -/
theorem count_statuses {rest : List Nat}
    (perm : (places ++ rest).Perm (List.range traces.length))
    (status : Option Status) :
    (traces.map Trace.status).count status =
      (places.map (statusAt traces)).count status +
        (rest.map (statusAt traces)).count status := by
  rw [← map_statusAt_range, ← (perm.map _).count_eq, List.map_append,
    List.count_append]

namespace Tally

variable {minSuccess maxFailures : Nat} {rest : List Nat}
  (tally : Tally traces places successes failures)

include tally

/-- A threshold that is crossed at some places is crossed at all. -/
theorem crosses_success
    (perm : (places ++ rest).Perm (List.range traces.length))
    (enough : minSuccess ≤ successes) :
    Status.Crosses minSuccess maxFailures (traces.map Trace.status)
      .success := by
  rw [Status.Crosses, count_statuses perm, tally.successes]
  exact Nat.le_add_right_of_le enough

theorem crosses_failure
    (perm : (places ++ rest).Perm (List.range traces.length))
    (tooMany : maxFailures < failures) :
    Status.Crosses minSuccess maxFailures (traces.map Trace.status)
      .failure := by
  rw [Status.Crosses, count_statuses perm, tally.failures]
  exact Nat.lt_add_right _ tooMany

/-- In the end all places are counted. -/
theorem crosses_running
    (perm : places.Perm (List.range traces.length))
    (notEnough : successes < minSuccess)
    (notTooMany : failures ≤ maxFailures) :
    Status.Crosses minSuccess maxFailures (traces.map Trace.status)
      .running := by
  have all : (traces.map Trace.status).Perm (places.map (statusAt traces)) := by
    rw [← map_statusAt_range]
    exact (perm.map (statusAt traces)).symm
  refine ⟨?_, ?_, ?_⟩
  · exact fun missing => tally.answered (all.mem_iff.mp missing)
  · rw [all.count_eq, tally.successes]
    exact notEnough
  · rw [all.count_eq, tally.failures]
    exact notTooMany

end Tally

end Trace

namespace Ticker.Leaves

variable [Blackboard β] {bound : Nat} {trees : List (Tree ι μ β)}

/-- Those that have not been ticked yet do not matter: a threshold that was crossed
stays crossed, and in the end all have been ticked. -/
theorem inParallel (each : EachExplained bound trees)
    {minSuccess maxFailures : Nat}
    (places : List Nat) {order : List Nat}
    (perm : (places ++ order).Perm (List.range trees.length))
    {successes failures : Nat}
    (notEnough : successes < minSuccess)
    (notTooMany : failures ≤ maxFailures) :
    (Ticker.inParallel (trees.map (Tree.tick bound)) minSuccess maxFailures
      order successes failures).Leaves
      (fun traces => AllExplained trees traces ∧
        Trace.Tally traces places successes failures)
      fun answer traces => AllExplained trees traces ∧
        Status.Crosses minSuccess maxFailures (traces.map Trace.status)
          answer := by
  induction order generalizing places successes failures with
  | nil =>
    rintro traces board step ⟨fitting, tally⟩ ends
    cases ends
    rw [List.append_nil, ← fitting.length_eq] at perm
    exact ⟨fitting, tally.crosses_running perm notEnough notTooMany⟩
  | cons place order ih =>
    rintro traces board step ⟨fitting, tally⟩ ends
    have sameLength : traces.length = trees.length := fitting.length_eq
    have here : place < trees.length :=
      List.mem_range.mp (perm.mem_iff.mp (by simp))
    have hereToo : place < traces.length := by omega
    have fresh : place ∉ places := by
      have apart := perm.nodup_iff.mpr List.nodup_range
      exact fun among =>
        (List.nodup_append.mp apart).2.2 place among place (by simp) rfl
    have goesOn : ((places ++ [place]) ++ order).Perm
        (List.range trees.length) := by simpa using perm
    have treeAt : trees[place]? = some trees[place] :=
      List.getElem?_eq_getElem here
    have explained : traces[place].Explained trees[place] := by
      simpa using fitting.get (i := place) hereToo here
    simp only [Ticker.inParallel, List.getElem?_map, treeAt, Option.map_some,
      List.getElem?_eq_getElem hereToo] at ends
    rcases exists_of_bind ends with ⟨first, ticked, goes⟩
    rcases each _ (List.getElem_mem here) _ _ _ explained ticked with
      ⟨explainedThen, stored⟩
    have fittingThen : AllExplained trees (traces.set place first.state) :=
      Trace.forall₂_set fitting treeAt explainedThen
    have placesThen : ((places ++ [place]) ++ order).Perm
        (List.range (traces.set place first.state).length) := by
      rw [List.length_set, sameLength]
      exact goesOn
    cases answer : first.status with
    | success =>
      have tallyThen : Trace.Tally (traces.set place first.state)
          (places ++ [place]) (successes + 1) failures :=
        tally.set .success fresh hereToo (answer ▸ stored)
      simp only [answer] at goes
      split at goes
      next enough =>
        cases goes
        exact ⟨fittingThen, tallyThen.crosses_success placesThen enough⟩
      next =>
        exact ih _ goesOn (by omega) notTooMany _ _ _ ⟨fittingThen, tallyThen⟩
          goes
    | failure =>
      have tallyThen : Trace.Tally (traces.set place first.state)
          (places ++ [place]) successes (failures + 1) :=
        tally.set .failure fresh hereToo (answer ▸ stored)
      simp only [answer] at goes
      split at goes
      next tooMany =>
        cases goes
        exact ⟨fittingThen, tallyThen.crosses_failure placesThen tooMany⟩
      next =>
        exact ih _ goesOn notEnough (by omega) _ _ _ ⟨fittingThen, tallyThen⟩
          goes
    | running =>
      have tallyThen : Trace.Tally (traces.set place first.state)
          (places ++ [place]) successes failures :=
        tally.set .running fresh hereToo (answer ▸ stored)
      simp only [answer] at goes
      exact ih _ goesOn notEnough notTooMany _ _ _
        ⟨fittingThen, tallyThen⟩ goes

theorem parallel (each : EachExplained bound trees) {minSuccess : Nat}
    (positive : 1 ≤ minSuccess) :
    (Ticker.parallel minSuccess (trees.map (Tree.tick bound))).Leaves
      (AllExplained trees)
      fun answer traces => AllExplained trees traces ∧
        Status.Crosses minSuccess (traces.length - minSuccess)
          (traces.map Trace.status) answer := by
  intro traces board step fitting ends
  rw [Ticker.parallel, List.length_map] at ends
  split at ends
  next => cases ends
  next =>
    have shuffled := RandomStream.shuffle_perm (Blackboard.random board)
      (List.range trees.length)
    rcases inParallel each [] shuffled positive (Nat.zero_le _)
      _ _ _ ⟨fitting, by simp, rfl, rfl⟩ ends with ⟨fitsThen, crosses⟩
    refine ⟨fitsThen, ?_⟩
    rw [fitsThen.length_eq]
    exact crosses

/-- A node that may have so many children keeps its trace explained. -/
theorem node {id : ι} {name : String} {kind : Kind μ β}
    (admits : kind.Admits trees.length)
    (each : EachExplained bound trees) :
    (kind.ticker bound (trees.map (Tree.tick bound))).Leaves
      (Trace.Explained · (.node id name kind trees))
      (Stored (Trace.Explained · (.node id name kind trees))) := by
  rintro ⟨status, count, memory, traces⟩ board step explained ends
  have fitting := ((Trace.explained_node ..).mp explained).2
  have rebuild (answer : Status) (count : Nat) (memory : Option μ)
      (traces : List (Trace μ))
      (explains : kind.Explains (traces.map Trace.status) answer)
      (fits : AllExplained trees traces) :
      Stored (Trace.Explained · (.node id name kind trees)) answer
        (.node answer count memory traces) := by
    refine ⟨(Trace.explained_node ..).mpr ⟨?_, fits⟩, rfl⟩
    intro stored same
    cases same
    exact explains
  cases kind with
  | sequence =>
    rcases exists_of_bind ends with ⟨first, ticked, same⟩
    cases same
    rcases inOrder each .success _ _ _ fitting ticked with ⟨fits, ordered⟩
    exact rebuild _ _ _ _ ordered fits
  | fallback =>
    rcases exists_of_bind ends with ⟨first, ticked, same⟩
    cases same
    rcases inOrder each .failure _ _ _ fitting ticked with ⟨fits, ordered⟩
    exact rebuild _ _ _ _ ordered fits
  | parallel minSuccess =>
    rcases exists_of_bind ends with ⟨first, ticked, same⟩
    cases same
    rcases parallel each admits.2.1 _ _ _ fitting ticked with ⟨fits, crosses⟩
    refine rebuild _ _ _ _ ?_ fits
    rw [Kind.Explains, List.length_map]
    exact crosses
  | decorator transform =>
    cases fitting with
    | nil => cases admits
    | cons here rest =>
      obtain rfl : _ = [] := List.length_eq_zero_iff.mp (Nat.succ.inj admits)
      cases rest
      rcases exists_of_bind ends with ⟨first, ticked, same⟩
      cases same
      have child := each _ (List.mem_cons_self ..)
      rcases child.decorator bound transform (_, _) _ _ here ticked with
        ⟨fits, explains⟩
      exact rebuild _ _ _ _ ⟨_, rfl, explains⟩ (.cons fits .nil)
  | leaf behavior =>
    cases ends
    exact rebuild _ _ _ _ trivial fitting

end Ticker.Leaves

/-! ## Trees -/

namespace Tree

open Ticker.Leaves

mutual

/-- Ticking an apt tree keeps its trace explained. -/
theorem tick_explained [Blackboard β] (bound : Nat) :
    (tree : Tree ι μ β) → tree.Apt →
      (tree.tick bound).Leaves (Trace.Explained · tree)
        (Stored (Trace.Explained · tree))
  | .node id name kind children, apt => by
    rw [Apt, nodes] at apt
    rw [tick, tickers_eq_map]
    exact .node (apt _ (List.mem_cons_self ..))
      (ticks_explained bound children
        fun part below => apt part (List.mem_cons_of_mem _ below))

theorem ticks_explained [Blackboard β] (bound : Nat) :
    (trees : List (Tree ι μ β)) →
      (∀ part ∈ nodesOfList trees, part.kind.Admits part.children.length) →
      EachExplained bound trees
  | [], _ => fun _ member => by simp at member
  | tree :: trees, apt => fun other member => by
    rw [nodesOfList] at apt
    rcases List.mem_cons.mp member with same | later
    · rw [same]
      exact tick_explained bound tree
        fun part below => apt part (List.mem_append_left _ below)
    · exact ticks_explained bound trees
        (fun part below => apt part (List.mem_append_right _ below))
        other later

end

mutual

/-- Setting up changes no status. -/
theorem setup_explained :
    (tree : Tree ι μ β) → (trace : Trace μ) → (board : β) →
      trace.Explained tree →
      (tree.setup trace board).1.Explained tree ∧
        (tree.setup trace board).1.status = trace.status
  | .node id name kind children, .node status count memory traces, board,
      explained => by
    rcases (Trace.explained_node ..).mp explained with ⟨here, below⟩
    rw [setup]
    have kept := setupList_explained children traces
      (kind.setup memory board).2 below
    refine ⟨(Trace.explained_node ..).mpr ⟨?_, kept.1⟩, rfl⟩
    rw [kept.2]
    exact here

theorem setupList_explained :
    (trees : List (Tree ι μ β)) → (traces : List (Trace μ)) → (board : β) →
      List.Forall₂ Trace.Explained traces trees →
      List.Forall₂ Trace.Explained (setupList trees traces board).1 trees ∧
        (setupList trees traces board).1.map Trace.status =
          traces.map Trace.status
  | [], [], _, explained => ⟨explained, rfl⟩
  | tree :: trees, trace :: traces, board, explained => by
    cases explained with
    | cons here rest =>
      rw [setupList]
      have first := setup_explained tree trace board here
      have others := setupList_explained trees traces
        (tree.setup trace board).2 rest
      refine ⟨.cons first.1 others.1, ?_⟩
      rw [List.map_cons, List.map_cons, first.2, others.2]

end

end Tree

namespace Trace

mutual

/-- Where nothing is stored, nothing is left to explain. -/
theorem clear_explained :
    (trace : Trace μ) → (tree : Tree ι μ β) → trace.Fits tree →
      trace.clear.Explained tree
  | .node status count memory traces, .node id name kind children, fits => by
    rw [Fits] at fits
    rw [clear, Explained]
    exact ⟨nofun, clearList_explained traces children fits⟩

theorem clearList_explained :
    (traces : List (Trace μ)) → (trees : List (Tree ι μ β)) →
      FitsList traces trees → ExplainedList (clearList traces) trees
  | [], [], _ => trivial
  | trace :: traces, tree :: trees, fits => by
    rw [FitsList] at fits
    rw [clearList, ExplainedList]
    exact ⟨clear_explained trace tree fits.1,
      clearList_explained traces trees fits.2⟩

end

mutual

theorem fits_of_explained :
    (trace : Trace μ) → (tree : Tree ι μ β) → trace.Explained tree →
      trace.Fits tree
  | .node status count memory traces, .node id name kind children,
      explained => by
    rw [Explained] at explained
    rw [Fits]
    exact fitsList_of_explainedList traces children explained.2

theorem fitsList_of_explainedList :
    (traces : List (Trace μ)) → (trees : List (Tree ι μ β)) →
      ExplainedList traces trees → FitsList traces trees
  | [], [], _ => trivial
  | trace :: traces, tree :: trees, explained => by
    rw [ExplainedList] at explained
    rw [FitsList]
    exact ⟨fits_of_explained trace tree explained.1,
      fitsList_of_explainedList traces trees explained.2⟩

end

mutual

theorem blank_explained :
    (tree : Tree ι μ β) → (blank tree).Explained tree
  | .node _ _ _ children => by
    rw [blank, Explained]
    exact ⟨nofun, blankList_explained children⟩

theorem blankList_explained :
    (trees : List (Tree ι μ β)) → ExplainedList (blankList trees) trees
  | [] => by
    rw [blankList, ExplainedList]
    trivial
  | tree :: trees => by
    rw [blankList, ExplainedList]
    exact ⟨blank_explained tree, blankList_explained trees⟩

end

/-- The answer that is stored at a node is explained by those of its children. -/
def Justifies (entry : Tree ι μ β × Trace μ) : Prop :=
  ∀ answer, entry.2.status = some answer →
    entry.1.kind.Explains (entry.2.children.map Trace.status) answer

mutual

/-- An explained trace is explained at every node. -/
theorem justifies_of_explained {entry : Tree ι μ β × Trace μ} :
    (trace : Trace μ) → (tree : Tree ι μ β) → trace.Explained tree →
      entry ∈ tree.nodes.zip trace.nodes → Justifies entry
  | .node status count memory traces, .node id name kind children, explained,
      among => by
    rw [Explained] at explained
    rw [Tree.nodes, nodes, List.zip_cons_cons] at among
    rcases List.mem_cons.mp among with rfl | below
    · exact explained.1
    · exact justifies_of_explainedList traces children explained.2 below

theorem justifies_of_explainedList {entry : Tree ι μ β × Trace μ} :
    (traces : List (Trace μ)) → (trees : List (Tree ι μ β)) →
      ExplainedList traces trees →
      entry ∈ (Tree.nodesOfList trees).zip (nodesOfList traces) →
      Justifies entry
  | [], [], _, among => by
    rw [Tree.nodesOfList, List.zip_nil_left] at among
    cases among
  | trace :: traces, tree :: trees, explained, among => by
    rw [ExplainedList] at explained
    have sameLength : tree.nodes.length = trace.nodes.length :=
      (length_nodes_of_fits trace tree
        (fits_of_explained trace tree explained.1)).symm
    rw [Tree.nodesOfList, nodesOfList, List.zip_append sameLength] at among
    rcases List.mem_append.mp among with here | there
    · exact justifies_of_explained trace tree explained.1 here
    · exact justifies_of_explainedList traces trees explained.2 there

end

end Trace

/-! ## Calls -/

namespace LiveNode

variable [Blackboard β] {live next : LiveNode μ β}

/-- A call keeps the trace explained. -/
theorem explained_of_call
    (apt : live.node.Apt)
    (explained : live.trace.Explained live.node)
    (call : Call β)
    (called : live.call call = .ok next) :
    next.node = live.node ∧ next.trace.Explained next.node := by
  cases call with
  | setup board =>
    cases called
    exact ⟨rfl, (Tree.setup_explained _ _ board explained).1⟩
  | clear =>
    cases called
    exact ⟨rfl, Trace.clear_explained _ _
      (Trace.fits_of_explained _ _ explained)⟩
  | tick bound board =>
    rcases exists_of_bind called with ⟨outer, ran, same⟩
    cases same
    rcases exists_of_bind ran with ⟨step, ticked, same⟩
    cases same
    exact ⟨rfl,
      (Tree.tick_explained bound live.node apt _ _ _ explained ticked).1⟩

theorem explained_of_callAll
    (apt : live.node.Apt)
    (explained : live.trace.Explained live.node)
    (calls : List (Call β))
    (called : live.callAll calls = .ok next) :
    next.trace.Explained next.node := by
  induction calls generalizing live with
  | nil =>
    cases called
    exact explained
  | cons first calls ih =>
    rw [callAll, List.foldlM_cons] at called
    rcases exists_of_bind called with ⟨middle, calledFirst, calledRest⟩
    rcases explained_of_call apt explained first calledFirst with
      ⟨same, explainedThen⟩
    exact ih (same ▸ apt) explainedThen calledRest

end LiveNode

/--
However often a built tree is set up, ticked and cleared, on whatever blackboards,
between these calls each stored status is explained by the stored statuses of the
children: those that were not ticked in the last tick count for nothing, and those
that were ticked several times count with their last answer.  Only a loop that goes
on until a failure can keep a tick from ending.
-/
theorem stored_statuses_explain_each_other [Blackboard β]
    (builder last : Builder)
    (spec : Spec μ β)
    (node : Node μ β)
    (built : builder.build spec = (.ok node, last))
    (calls : List (LiveNode.Call β)) :
    (∃ live, (LiveNode.ofNode node).callAll calls = .ok live ∧
      live.entries.map Prod.fst = node.nodes ∧
      ∀ entry ∈ live.entries, ∀ answer, entry.2.status = some answer →
        entry.1.kind.Explains (entry.2.children.map Trace.status) answer) ∨
    (LiveNode.ofNode node).callAll calls = .error .unbounded ∧
      ∃ part ∈ node.nodes, part.kind.IsEndless := by
  have apt := Builder.apt_of_build spec built
  have blank : (LiveNode.ofNode node).Embodies node :=
    ⟨rfl, Trace.blank_fits node⟩
  have endless : ∀ part ∈ node.nodes, part.kind.IsEndless →
      ∃ part ∈ node.nodes, part.kind.IsEndless :=
    fun part among loops => ⟨part, among, loops⟩
  rcases blank.callAll apt endless calls with ⟨live, called, embodies⟩ | exceeded
  · refine .inl ⟨live, called, embodies.entries, fun entry among => ?_⟩
    have aptThen : (LiveNode.ofNode node).node.Apt := apt
    have explained := LiveNode.explained_of_callAll aptThen
      (Trace.blank_explained node) calls called
    exact Trace.justifies_of_explained live.trace live.node explained among
  · exact .inr exceeded

theorem stored_statuses_of_example :
    ∃ node last live,
      Builder.fresh.build exampleSpec = (.ok node, last) ∧
      (LiveNode.ofNode node).callAll exampleCalls = .ok live ∧
      live.entries.map Prod.fst = node.nodes ∧
      ∀ entry ∈ live.entries, ∀ answer, entry.2.status = some answer →
        entry.1.kind.Explains (entry.2.children.map Trace.status) answer := by
  obtain ⟨node, last, built⟩ : ∃ node last,
      Builder.fresh.build exampleSpec = (.ok node, last) :=
    ⟨_, _, rfl⟩
  rcases stored_statuses_explain_each_other Builder.fresh last exampleSpec node
    built exampleCalls with ⟨live, called, kept⟩ | ⟨exceeded, _⟩
  · exact ⟨node, last, live, built, called, kept⟩
  · exact absurd exceeded (exampleCalls_answered built)

end Disclosure
