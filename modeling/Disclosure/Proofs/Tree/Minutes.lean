import Disclosure.Proofs.Tree.Answers
import Disclosure.Proofs.Tree.Safety

/-!
# The minutes of a tick

In the course of one tick of a tree its nodes are ticked in some order, a child of a
loop many times and other nodes not at all.  The minutes of a tick say which nodes
were ticked, in which order, and what they answered.  They are taken along the way,
by the same steps and without any effect on them.

From the minutes it can be seen where an answer comes from: that something is running
can be traced down to a leaf that answered so.
-/

namespace Disclosure

variable {ι κ μ σ τ β : Type}

/-! ## Taking minutes -/

/-- What a node answered to one tick, over what was ticked below it meanwhile. -/
inductive Account (ι μ β : Type) where
  | of (part : Tree ι μ β) (status : Status) (inner : List (Account ι μ β))

namespace Account

def part : Account ι μ β → Tree ι μ β
  | of part _ _ => part

def status : Account ι μ β → Status
  | of _ status _ => status

/-- What was ticked right below the node, in the order of the ticks. -/
def inner : Account ι μ β → List (Account ι μ β)
  | of _ _ inner => inner

mutual

/-- The account of the node and those of all ticks below it. -/
def entries : Account ι μ β → List (Account ι μ β)
  | of part status inner => of part status inner :: entriesOfList inner

def entriesOfList : List (Account ι μ β) → List (Account ι μ β)
  | [] => []
  | account :: accounts => account.entries ++ entriesOfList accounts

end

@[simp]
theorem entriesOfList_eq_flatMap (accounts : List (Account ι μ β)) :
    entriesOfList accounts = accounts.flatMap entries := by
  induction accounts with
  | nil => rfl
  | cons account accounts ih => rw [entriesOfList, List.flatMap_cons, ih]

end Account

/-- A blackboard with accounts of what was ticked on it. -/
structure Minutes (κ β : Type) where
  board : β
  accounts : List κ

instance [Blackboard β] : Blackboard (Minutes κ β) where
  random minutes := Blackboard.random minutes.board
  setRandom stream minutes :=
    { minutes with board := Blackboard.setRandom stream minutes.board }
  decide decision minutes :=
    let (status, board) := Blackboard.decide decision minutes.board
    (status, { minutes with board })

/-- The same leaf while minutes are taken. -/
def Leaf.minuted (leaf : Leaf μ β) : Leaf μ (Minutes κ β) where
  kind := leaf.kind
  memory := leaf.memory
  setup memory minutes :=
    let (memory, board) := leaf.setup memory minutes.board
    (memory, { minutes with board })
  act memory minutes :=
    let (status, memory, board) := leaf.act memory minutes.board
    (status, memory, { minutes with board })

/-- The same kind while minutes are taken. -/
def Kind.minuted : Kind μ β → Kind μ (Minutes κ β)
  | sequence => .sequence
  | fallback => .fallback
  | parallel minSuccess => .parallel minSuccess
  | decorator transform => .decorator transform
  | leaf behavior => .leaf behavior.minuted

/-- Add an account of the tick, over those that were given in the course of it. -/
def Ticker.accounted (part : Tree ι μ β)
    (tick : Ticker σ (Minutes (Account ι μ β) β)) :
    Ticker σ (Minutes (Account ι μ β) β) := fun state minutes => do
  let step ← tick state ⟨minutes.board, []⟩
  return ⟨step.status, step.state,
    ⟨step.board.board,
      minutes.accounts ++ [.of part step.status step.board.accounts]⟩⟩

namespace Tree

mutual

/-- Tick a tree and take minutes. -/
def minuted [Blackboard β] (bound : Nat) :
    Tree ι μ β → Ticker (Trace μ) (Minutes (Account ι μ β) β)
  | .node id name kind children =>
    (kind.minuted.ticker bound (minutedList bound children)).accounted
      (.node id name kind children)

def minutedList [Blackboard β] (bound : Nat) :
    List (Tree ι μ β) → List (Ticker (Trace μ) (Minutes (Account ι μ β) β))
  | [] => []
  | tree :: trees => tree.minuted bound :: minutedList bound trees

end

theorem length_minutedList [Blackboard β] (bound : Nat)
    (trees : List (Tree ι μ β)) :
    (minutedList bound trees).length = trees.length := by
  induction trees with
  | nil => rfl
  | cons tree trees ih => rw [minutedList, List.length_cons, ih, List.length_cons]

end Tree

/-! ## Minutes have no effect -/

/-- The step without the minutes. -/
abbrev Step.plain (step : Step σ (Minutes κ β)) : Step σ β :=
  ⟨step.status, step.state, step.board.board⟩

/-- Without the minutes the first ticker does what the second one does. -/
def Ticker.Retells (tick : Ticker σ (Minutes κ β)) (plain : Ticker σ β) : Prop :=
  ∀ state minutes,
    (tick state minutes).map Step.plain = plain state minutes.board

theorem Step.map_plain_bind
    {ran : Except TickError (Step σ (Minutes κ β))}
    {plain : Except TickError (Step σ β)}
    {next : Step σ (Minutes κ β) → Except TickError (Step τ (Minutes κ β))}
    {plainNext : Step σ β → Except TickError (Step τ β)}
    (first : ran.map Step.plain = plain)
    (second : ∀ step, (next step).map Step.plain = plainNext step.plain) :
    (ran >>= next).map Step.plain = plain >>= plainNext := by
  subst first
  cases ran with
  | error found => rfl
  | ok step => exact second step

namespace Ticker.Retells

section Loops

variable {tick : Ticker σ (Minutes κ β)} {plain : Ticker σ β}

theorem mapStatus (retells : tick.Retells plain) (change : Status → Status) :
    (tick.mapStatus change).Retells (plain.mapStatus change) := by
  intro state minutes
  exact Step.map_plain_bind (retells _ _) fun step => rfl

theorem repeatWhile (retells : tick.Retells plain) (through : Status)
    (times : Nat) :
    (tick.repeatWhile through times).Retells (plain.repeatWhile through times) := by
  induction times with
  | zero => exact fun state minutes => rfl
  | succ times ih =>
    intro state minutes
    refine Step.map_plain_bind (retells _ _) fun step => ?_
    by_cases goesOn : step.status = through
    · simp only [if_pos goesOn]
      exact ih _ _
    · simp only [if_neg goesOn]
      rfl

theorem untilFailure (retells : tick.Retells plain) (bound : Nat) :
    (tick.untilFailure bound).Retells (plain.untilFailure bound) := by
  induction bound with
  | zero => exact fun state minutes => rfl
  | succ bound ih =>
    intro state minutes
    refine Step.map_plain_bind (retells _ _) fun step => ?_
    rcases step with ⟨status, state, board⟩
    cases status with
    | success => exact ih _ _
    | failure | running => rfl

theorem decorator (retells : tick.Retells plain) (bound : Nat)
    (transform : Decorator) :
    (transform.ticker bound tick).Retells (transform.ticker bound plain) := by
  cases transform with
  | invert | forceSuccess | forceFailure | forceRunning | runningIsSuccess
  | runningIsFailure =>
    rw [Decorator.ticker, Decorator.ticker]
    exact retells.mapStatus _
  | retry times reset => exact retells.repeatWhile .failure times
  | repeated times reset => exact retells.repeatWhile .success times
  | untilFailure reset => exact retells.untilFailure bound

/-- An account is part of the minutes. -/
theorem accounted {tick : Ticker σ (Minutes (Account ι μ β) β)}
    (retells : tick.Retells plain) (part : Tree ι μ β) :
    (tick.accounted part).Retells plain := by
  intro state minutes
  have same := retells state ⟨minutes.board, []⟩
  rw [Ticker.accounted]
  rw [← same]
  cases tick state ⟨minutes.board, []⟩ with
  | error found => rfl
  | ok step => rfl

end Loops

/-! ### Several children -/

section Children

variable {ticks : List (Ticker σ (Minutes κ β))} {plains : List (Ticker σ β)}

theorem inOrder (each : List.Forall₂ Ticker.Retells ticks plains)
    (through : Status) :
    (Ticker.inOrder through ticks).Retells (Ticker.inOrder through plains) := by
  induction each with
  | nil => exact fun states minutes => rfl
  | cons here rest ih =>
    intro states minutes
    cases states with
    | nil => rfl
    | cons state states =>
      refine Step.map_plain_bind (here _ _) fun step => ?_
      by_cases goesOn : step.status = through
      · simp only [if_pos goesOn]
        exact Step.map_plain_bind (ih _ _) fun later => rfl
      · simp only [if_neg goesOn]
        rfl

theorem inParallel (each : List.Forall₂ Ticker.Retells ticks plains)
    (minSuccess maxFailures : Nat) (order : List Nat)
    (successes failures : Nat) :
    (Ticker.inParallel ticks minSuccess maxFailures order successes
      failures).Retells
      (Ticker.inParallel plains minSuccess maxFailures order successes
        failures) := by
  induction order generalizing successes failures with
  | nil => exact fun states minutes => rfl
  | cons index order ih =>
    intro states minutes
    simp only [Ticker.inParallel]
    by_cases inside : index < plains.length
    · have insideToo : index < ticks.length := each.length_eq ▸ inside
      have here : ticks[index].Retells plains[index] := by
        simpa using each.get (i := index) insideToo inside
      rw [List.getElem?_eq_getElem inside, List.getElem?_eq_getElem insideToo]
      cases states[index]? with
      | none => rfl
      | some state =>
        refine Step.map_plain_bind (here _ _) fun step => ?_
        rcases step with ⟨status, state, board⟩
        cases status with
        | success =>
          by_cases enough : minSuccess ≤ successes + 1
          · simp only [if_pos enough]
            rfl
          · simp only [if_neg enough]
            exact ih _ _ _ _
        | failure =>
          by_cases tooMany : maxFailures < failures + 1
          · simp only [if_pos tooMany]
            rfl
          · simp only [if_neg tooMany]
            exact ih _ _ _ _
        | running => exact ih _ _ _ _
    · have missing : plains[index]? = none :=
        List.getElem?_eq_none (Nat.not_lt.mp inside)
      have missingToo : ticks[index]? = none := by
        rw [List.getElem?_eq_none_iff, each.length_eq]
        exact Nat.not_lt.mp inside
      rw [missing, missingToo]
      rfl

theorem parallel [Blackboard β]
    (each : List.Forall₂ Ticker.Retells ticks plains) (minSuccess : Nat) :
    (Ticker.parallel minSuccess ticks).Retells
      (Ticker.parallel minSuccess plains) := by
  intro states minutes
  rw [Ticker.parallel, Ticker.parallel, each.length_eq]
  split
  · rfl
  · exact inParallel each _ _ _ _ _ _ _

end Children

/-- A node retells what it does if its children do. -/
theorem node [Blackboard β]
    {ticks : List (Ticker (Trace μ) (Minutes κ β))}
    {plains : List (Ticker (Trace μ) β)}
    (each : List.Forall₂ Ticker.Retells ticks plains)
    (bound : Nat) (kind : Kind μ β) :
    (kind.minuted.ticker bound ticks).Retells (kind.ticker bound plains) := by
  rintro ⟨status, count, memory, traces⟩ minutes
  cases kind with
  | sequence | fallback =>
    exact Step.map_plain_bind (inOrder each _ _ _) fun step => rfl
  | parallel minSuccess =>
    exact Step.map_plain_bind (parallel each _ _ _) fun step => rfl
  | decorator transform =>
    cases traces with
    | nil => rfl
    | cons trace traces =>
      cases each with
      | nil => rfl
      | cons here rest =>
        exact Step.map_plain_bind (here.decorator bound transform _ _)
          fun step => rfl
  | leaf behavior => rfl

end Ticker.Retells

namespace Tree

mutual

/-- A tick is the same with and without minutes. -/
theorem minuted_retells [Blackboard β] (bound : Nat) :
    (tree : Tree ι μ β) →
      (tree.minuted bound).Retells (tree.tick bound)
  | .node id name kind children => by
    rw [minuted, tick]
    exact (Ticker.Retells.node (minutedList_retells bound children) bound
      kind).accounted _

theorem minutedList_retells [Blackboard β] (bound : Nat) :
    (trees : List (Tree ι μ β)) →
      List.Forall₂ Ticker.Retells (minutedList bound trees) (tickers bound trees)
  | [] => .nil
  | tree :: trees => by
    rw [minutedList, tickers]
    exact .cons (minuted_retells bound tree) (minutedList_retells bound trees)

end

end Tree

/-! ## Where answers come from -/

/-- What the answers of so many children have to do with the answer of a node of this
kind. -/
def Kind.Grounds (children : Nat) (answers : List Status) (answer : Status) :
    Kind μ β → Prop
  | sequence => answer = .running → .running ∈ answers
  | fallback => answer = .running → .running ∈ answers
  | parallel minSuccess => minSuccess ≤ children ∧
    (0 < minSuccess →
      answer.Decides minSuccess (children - minSuccess) children answers)
  | decorator transform => transform ≠ .forceRunning → answer = .running →
    .running ∈ answers
  | leaf _ => True

/-- Whether a node of this kind makes up that it is running. -/
def Kind.forcesRunning : Kind μ β → Bool
  | decorator .forceRunning => true
  | _ => false

namespace Kind.Grounds

variable {kind : Kind μ β} {children : Nat} {answers : List Status}
  {answer : Status}

/-- With no child running a threshold is crossed. -/
theorem crosses {minSuccess : Nat}
    (grounds : (parallel minSuccess : Kind μ β).Grounds children answers answer)
    (admits : (parallel minSuccess : Kind μ β).Admits children)
    (calm : .running ∉ answers) :
    answer = .success ∧ minSuccess ≤ answers.count .success ∨
      answer = .failure ∧ children - minSuccess < answers.count .failure := by
  have decides := grounds.2 admits.2.1
  cases answer with
  | success => exact .inl ⟨rfl, decides⟩
  | failure => exact .inr ⟨rfl, decides⟩
  | running => exact absurd (decides.running_mem grounds.1) calm

/-- Only a leaf, or a decorator for that purpose, makes up that it is running. -/
theorem settled (grounds : kind.Grounds children answers answer)
    (admits : kind.Admits children)
    (directs : kind.isLeaf = false)
    (honest : kind.forcesRunning = false)
    (calm : .running ∉ answers) :
    answer ≠ .running := by
  cases kind with
  | sequence | fallback => exact fun running => calm (grounds running)
  | parallel minSuccess =>
    rcases grounds.crosses admits calm with ⟨rfl, _⟩ | ⟨rfl, _⟩ <;> decide
  | decorator transform =>
    have sincere : transform ≠ .forceRunning := by
      rintro rfl
      cases honest
    exact fun running => calm (grounds sincere running)
  | leaf behavior => cases directs

end Kind.Grounds

namespace Account

/-- Each answer has its grounds in what was answered right below it, by children of
the node. -/
inductive Sound : Account ι μ β → Prop where
  | of {part : Tree ι μ β} {status : Status} {inner : List (Account ι μ β)}
      (grounds : part.kind.Grounds part.children.length (inner.map Account.status)
        status)
      (among : ∀ account ∈ inner, account.part ∈ part.children)
      (each : ∀ account ∈ inner, account.Sound) :
    Sound (.of part status inner)

/-- One account is added, of a tick with this answer. -/
def Adds (keeps : Account ι μ β → Prop) (before : Minutes (Account ι μ β) β)
    (answer : Status) (after : Minutes (Account ι μ β) β) : Prop :=
  ∃ account, after.accounts = before.accounts ++ [account] ∧
    account.status = answer ∧ keeps account

variable {keeps : Account ι μ β → Prop}
  {before after : Minutes (Account ι μ β) β}

theorem exists_of_passes {answers : List Status}
    (passes : Passes (Adds keeps) before answers after) :
    ∃ added, after.accounts = before.accounts ++ added ∧
      added.map status = answers ∧ ∀ account ∈ added, keeps account := by
  induction passes with
  | none => exact ⟨[], (List.append_nil _).symm, rfl, by simp⟩
  | next first rest ih =>
    rcases first with ⟨account, grown, rfl, kept⟩
    rcases ih with ⟨added, grownOn, rfl, each⟩
    refine ⟨account :: added, ?_, rfl, List.forall_mem_cons.mpr ⟨kept, each⟩⟩
    rw [grownOn, grown, List.append_assoc, List.singleton_append]

theorem exists_of_relays {answer : Status}
    (relays : Relays (Adds keeps) before answer after) :
    ∃ added, after.accounts = before.accounts ++ added ∧
      (∀ account ∈ added, keeps account) ∧
      (answer = .running → .running ∈ added.map status) := by
  rcases relays with ⟨answers, passes, relayed⟩
  rcases exists_of_passes passes with ⟨added, grown, rfl, each⟩
  exact ⟨added, grown, each, fun running => List.mem_of_getLast? (relayed running)⟩

/-- What a node concludes from its children is grounded in their accounts. -/
theorem exists_of_concludes [Blackboard β] {kind : Kind μ β} {children : Nat}
    {answer : Status}
    (concludes : kind.minuted.Concludes (Adds keeps) children before answer after) :
    ∃ added, after.accounts = before.accounts ++ added ∧
      (∀ account ∈ added, keeps account) ∧
      kind.Grounds children (added.map status) answer := by
  cases kind with
  | sequence | fallback => exact exists_of_relays concludes
  | parallel minSuccess =>
    rcases concludes with ⟨within, stream, answers, passes, decides⟩
    rcases exists_of_passes passes with ⟨added, grown, rfl, each⟩
    exact ⟨added, grown, each, within, decides⟩
  | decorator transform =>
    rw [Kind.minuted, Kind.Concludes] at concludes
    split at concludes
    next made =>
      rcases concludes with ⟨status, account, grown, _, kept⟩
      refine ⟨[account], grown, ?_, fun honest => absurd made honest⟩
      exact fun other only => List.mem_singleton.mp only ▸ kept
    next =>
      rcases exists_of_relays concludes with ⟨added, grown, each, grounds⟩
      exact ⟨added, grown, each, fun _ => grounds⟩
  | leaf behavior =>
    rcases concludes with ⟨memory, _, rfl⟩
    exact ⟨[], (List.append_nil _).symm, by simp, trivial⟩

end Account

namespace Tree

open Account

mutual

/-- A tick adds one account, and it is sound. -/
theorem minuted_adds [Blackboard β] (bound : Nat) :
    (tree : Tree ι μ β) →
      (tree.minuted bound).Makes
        (Adds fun account => account.part = tree ∧ account.Sound)
  | .node id name kind children => by
    intro trace minutes step ends
    rw [minuted, Ticker.accounted] at ends
    rcases TickError.exists_of_bind ends with ⟨inner, ticked, same⟩
    cases same
    have concludes := Ticker.Makes.node (minutedList_adds bound children) bound
      kind.minuted _ _ _ ticked
    rw [length_minutedList] at concludes
    rcases exists_of_concludes concludes with ⟨added, grown, each, grounds⟩
    simp only [List.nil_append] at grown
    subst grown
    have among := fun account member => (each account member).1
    have sound := fun account member => (each account member).2
    exact ⟨_, rfl, rfl, rfl, .of grounds among sound⟩

theorem minutedList_adds [Blackboard β] (bound : Nat) :
    (trees : List (Tree ι μ β)) →
      ∀ tick ∈ minutedList bound trees, tick.Makes
        (Adds fun account => account.part ∈ trees ∧ account.Sound)
  | [] => by simp [minutedList]
  | tree :: trees => by
    intro tick member trace minutes step ends
    rw [minutedList] at member
    rcases List.mem_cons.mp member with rfl | later
    · rcases minuted_adds bound tree _ _ _ ends with
        ⟨account, grown, answered, same, sound⟩
      exact ⟨account, grown, answered, same ▸ List.mem_cons_self .., sound⟩
    · rcases minutedList_adds bound trees tick later _ _ _ ends with
        ⟨account, grown, answered, among, sound⟩
      exact ⟨account, grown, answered, List.mem_cons_of_mem _ among, sound⟩

end

end Tree

/-! ## Running only from running -/

theorem Tree.nodes_of_child {tree child part : Tree ι μ β}
    (below : child ∈ tree.children) (among : part ∈ child.nodes) :
    part ∈ tree.nodes := by
  rcases tree with ⟨id, name, kind, children⟩
  rw [nodes, nodesOfList_eq_flatMap]
  exact List.mem_cons_of_mem _ (List.mem_flatMap.mpr ⟨child, below, among⟩)

namespace Account

variable {account : Account ι μ β}

theorem mem_entries {part : Tree ι μ β} {status : Status}
    {inner : List (Account ι μ β)} {entry : Account ι μ β} :
    entry ∈ (of part status inner).entries ↔
      entry = of part status inner ∨
        ∃ account ∈ inner, entry ∈ account.entries := by
  rw [entries, entriesOfList_eq_flatMap, List.mem_cons, List.mem_flatMap]

theorem self_mem_entries (account : Account ι μ β) :
    account ∈ account.entries := by
  rcases account with ⟨part, status, inner⟩
  exact mem_entries.mpr (.inl rfl)

/-- All that a sound account consists of is sound and about parts of the tree. -/
theorem Sound.entries (sound : account.Sound) :
    ∀ entry ∈ account.entries,
      entry.Sound ∧ entry.part ∈ account.part.nodes := by
  induction sound with
  | @of part status inner grounds among each ih =>
    intro entry member
    rcases mem_entries.mp member with rfl | ⟨child, within, below⟩
    · refine ⟨.of grounds among each, ?_⟩
      rcases part with ⟨id, name, kind, children⟩
      rw [Account.part, Tree.nodes]
      exact List.mem_cons_self ..
    · rcases ih child within entry below with ⟨soundToo, part⟩
      exact ⟨soundToo, Tree.nodes_of_child (among child within) part⟩

theorem Sound.settled (sound : account.Sound)
    (apt : account.part.Apt)
    (honest : ∀ part ∈ account.part.nodes, part.kind.forcesRunning = false)
    (leaves : ∀ entry ∈ account.entries, entry.part.kind.isLeaf = true →
      entry.status ≠ .running) :
    ∀ entry ∈ account.entries, entry.status ≠ .running := by
  induction sound with
  | @of part status inner grounds among each ih =>
    have below : ∀ child ∈ inner, ∀ entry ∈ child.entries,
        entry.status ≠ .running := by
      intro child within
      have nodes : ∀ other ∈ child.part.nodes, other ∈ part.nodes :=
        fun other => Tree.nodes_of_child (among child within)
      refine ih child within (fun other member => apt other (nodes other member))
        (fun other member => honest other (nodes other member)) ?_
      exact fun entry member => leaves entry
        (mem_entries.mpr (.inr ⟨child, within, member⟩))
    intro entry member
    rcases mem_entries.mp member with rfl | ⟨child, within, here⟩
    · -- all children are settled, so that the node has no grounds to be running
      cases directs : part.kind.isLeaf with
      | true => exact leaves _ member directs
      | false =>
        have self : part ∈ part.nodes :=
          (Sound.entries (.of grounds among each) _ member).2
        refine grounds.settled (apt part self) directs (honest part self) ?_
        intro running
        rcases List.mem_map.mp running with ⟨child, within, same⟩
        exact below child within child child.self_mem_entries same
    · exact below child within entry here

end Account

/-- A tick that ends has the same end when minutes are taken. -/
theorem Tree.exists_account [Blackboard β] {tree : Tree ι μ β} {bound : Nat}
    {trace : Trace μ} {board : β} {step : Step (Trace μ) β}
    (ends : tree.tick bound trace board = .ok step) :
    ∃ account, tree.minuted bound trace ⟨board, []⟩ =
        .ok ⟨step.status, step.state, ⟨step.board, [account]⟩⟩ ∧
      account.part = tree ∧ account.status = step.status ∧ account.Sound := by
  have same := minuted_retells bound tree trace ⟨board, []⟩
  cases ticked : tree.minuted bound trace ⟨board, []⟩ with
  | error found =>
    rw [ticked, ends] at same
    cases same
  | ok minuted =>
    rw [ticked, ends] at same
    cases same
    rcases minuted_adds bound tree _ _ _ ticked with
      ⟨account, grown, answered, part, sound⟩
    refine ⟨account, ?_, part, answered, sound⟩
    rcases minuted with ⟨status, state, ⟨board, accounts⟩⟩
    have grown : accounts = [account] := grown
    rw [grown]

end Disclosure
