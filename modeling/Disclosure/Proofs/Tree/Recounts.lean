import Disclosure.Proofs.Tree.Algebra
import Disclosure.Proofs.Tree.Counts
import Disclosure.Proofs.Tree.Laps

/-!
# The counts of loops over many ticks

A loop keeps a count of its laps, which outlives the tick and can only be told from
the whole history of the tree.

The history is in the minutes.  To find a node in them, the nodes are given their
places as identities.  One account changes the count of a node if the node was ticked
in the course of it, by its laps; the counts after many calls come of the accounts of
all ticks, one after the other.
-/

namespace Disclosure

open TickError

variable {ι μ β : Type}

/-! ## Counts of all nodes -/

namespace Account

/-- The ticks of the node of this identity, one after the other. -/
def ticksOf (id : Nat) (accounts : List (Account Nat μ β)) :
    List (Account Nat μ β) :=
  (accounts.flatMap entries).filter fun account => account.part.id = id

/-- How often anything was ticked right below the node. -/
def laps (account : Account Nat μ β) : Nat := account.inner.length

theorem ticksOf_append (id : Nat) (accounts later : List (Account Nat μ β)) :
    ticksOf id (accounts ++ later) = ticksOf id accounts ++ ticksOf id later := by
  rw [ticksOf, List.flatMap_append, List.filter_append]
  rfl

theorem ticksOf_singleton_self {part : Tree Nat μ β} {status : Status}
    {inner : List (Account Nat μ β)}
    (absent : ticksOf part.id inner = []) :
    ticksOf part.id [of part status inner] = [of part status inner] := by
  rw [ticksOf] at absent
  rw [ticksOf, List.flatMap_singleton, entries, entriesOfList_eq_flatMap,
    List.filter_cons_of_pos (by simp [Account.part]), absent]

theorem ticksOf_singleton_of_ne {id : Nat} {part : Tree Nat μ β} {status : Status}
    {inner : List (Account Nat μ β)}
    (other : part.id ≠ id) :
    ticksOf id [of part status inner] = ticksOf id inner := by
  rw [ticksOf, List.flatMap_singleton, entries, entriesOfList_eq_flatMap,
    List.filter_cons_of_neg (by simp [Account.part, other])]
  rfl

theorem ticksOf_eq_nil {id : Nat} {accounts : List (Account Nat μ β)}
    (others : ∀ account ∈ accounts, ∀ entry ∈ account.entries,
      entry.part.id ≠ id) :
    ticksOf id accounts = [] := by
  rw [ticksOf, List.filter_eq_nil_iff]
  intro entry member
  rcases List.mem_flatMap.mp member with ⟨account, among, within⟩
  simpa using others account among entry within

end Account

/-- The count of a node of this kind after some ticks. -/
def Kind.tally (kind : Kind μ β) (count : Nat)
    (ticks : List (Account Nat μ β)) : Nat :=
  ticks.foldl (fun count tick => kind.counted count tick.laps) count

/-- The counts of several nodes after what was accounted for. -/
def Account.recounted (accounts : List (Account Nat μ β))
    (nodes : List (Tree Nat μ β)) (counts : List Nat) : List Nat :=
  List.zipWith (fun part count => part.kind.tally count (ticksOf part.id accounts))
    nodes counts

namespace Account

variable {accounts later : List (Account Nat μ β)}

/-- Only the ticks of these nodes matter. -/
theorem recounted_congr {nodes : List (Tree Nat μ β)}
    (same : ∀ part ∈ nodes, ticksOf part.id accounts = ticksOf part.id later)
    (counts : List Nat) :
    recounted accounts nodes counts = recounted later nodes counts := by
  rw [recounted, recounted]
  induction nodes generalizing counts with
  | nil => rfl
  | cons part nodes ih =>
    cases counts with
    | nil => rfl
    | cons count counts =>
      rw [List.zipWith_cons_cons, List.zipWith_cons_cons,
        same part (List.mem_cons_self ..),
        ih fun other among => same other (List.mem_cons_of_mem _ among)]

theorem recounted_nil {nodes : List (Tree Nat μ β)} {counts : List Nat}
    (sameLength : counts.length = nodes.length) :
    recounted [] nodes counts = counts := by
  induction nodes generalizing counts with
  | nil => exact (List.eq_nil_of_length_eq_zero sameLength).symm
  | cons part nodes ih =>
    cases counts with
    | nil => cases sameLength
    | cons count counts =>
      exact congrArg (count :: ·) (ih (Nat.succ.inj sameLength))

theorem recounted_append (nodes : List (Tree Nat μ β)) (counts : List Nat) :
    recounted (accounts ++ later) nodes counts =
      recounted later nodes (recounted accounts nodes counts) := by
  simp only [recounted, ticksOf_append, Kind.tally, List.foldl_append]
  induction nodes generalizing counts with
  | nil => rfl
  | cons part nodes ih =>
    cases counts with
    | nil => rfl
    | cons count counts => exact congrArg (_ :: ·) (ih counts)

end Account

/-- The counts of all nodes, depth first. -/
def Trace.counts (trace : Trace μ) : List Nat := trace.nodes.map Trace.count

theorem Trace.counts_node (status : Option Status) (count : Nat)
    (memory : Option μ) (traces : List (Trace μ)) :
    counts (node status count memory traces) = count :: traces.flatMap counts := by
  rw [counts, nodes, List.map_cons, nodesOfList_eq_flatMap, List.map_flatMap]
  rfl

theorem Trace.length_counts {trace : Trace μ} {tree : Tree Nat μ β}
    (fits : trace.Fits tree) :
    trace.counts.length = tree.nodes.length := by
  rw [counts, List.length_map, length_nodes_of_fits _ _ fits]

/-- The counts afterwards come of what was accounted for. -/
structure Recounts (tree : Tree Nat μ β) (before : Trace μ)
    (accounts : List (Account Nat μ β)) (after : Trace μ) : Prop where
  fits : after.Fits tree
  counts : after.counts = Account.recounted accounts tree.nodes before.counts

/-- So it is for each of several trees. -/
structure RecountsEach (trees : List (Tree Nat μ β)) (before : List (Trace μ))
    (accounts : List (Account Nat μ β)) (after : List (Trace μ)) : Prop where
  fits : List.Forall₂ Trace.Fits after trees
  each : ∀ (place : Nat) (tree : Tree Nat μ β) (trace next : Trace μ),
    trees[place]? = some tree → before[place]? = some trace →
      after[place]? = some next → Recounts tree trace accounts next

namespace Recounts

variable {tree : Tree Nat μ β} {accounts later : List (Account Nat μ β)}
  {before middle after : Trace μ}

theorem congr (recounts : Recounts tree before accounts after)
    (same : ∀ part ∈ tree.nodes,
      Account.ticksOf part.id accounts = Account.ticksOf part.id later) :
    Recounts tree before later after :=
  ⟨recounts.fits, recounts.counts.trans (Account.recounted_congr same _)⟩

/-- Where no node was ticked, nothing is counted. -/
theorem refl (fits : before.Fits tree)
    (unticked : ∀ part ∈ tree.nodes, Account.ticksOf part.id accounts = []) :
    Recounts tree before accounts before := by
  have nothing : Recounts tree before [] before :=
    ⟨fits, (Account.recounted_nil (Trace.length_counts fits)).symm⟩
  exact nothing.congr fun part among => (unticked part among).symm

theorem trans (first : Recounts tree before accounts middle)
    (second : Recounts tree middle later after) :
    Recounts tree before (accounts ++ later) after := by
  refine ⟨second.fits, ?_⟩
  rw [second.counts, first.counts, Account.recounted_append]

end Recounts

namespace RecountsEach

variable {trees : List (Tree Nat μ β)} {accounts later : List (Account Nat μ β)}
  {before middle after : List (Trace μ)}

/-- All counts below a node, one child after the other. -/
theorem counts (recounts : RecountsEach trees before accounts after)
    (fits : List.Forall₂ Trace.Fits before trees) :
    after.flatMap Trace.counts = Account.recounted accounts
      (trees.flatMap Tree.nodes) (before.flatMap Trace.counts) := by
  rcases recounts with ⟨fitsAfter, each⟩
  induction fits generalizing after with
  | nil =>
    cases fitsAfter
    rfl
  | cons here rest ih =>
    cases fitsAfter with
    | cons hereAfter restAfter =>
      rw [List.flatMap_cons, List.flatMap_cons, List.flatMap_cons,
        ih restAfter fun place => each (place + 1),
        (each 0 _ _ _ rfl rfl rfl).counts, Account.recounted, Account.recounted,
        Account.recounted, List.zipWith_append (Trace.length_counts here).symm]

theorem trans (first : RecountsEach trees before accounts middle)
    (second : RecountsEach trees middle later after) :
    RecountsEach trees before (accounts ++ later) after := by
  refine ⟨second.fits, fun place tree trace next child here there => ?_⟩
  have inside : place < middle.length := by
    rw [first.fits.length_eq, ← second.fits.length_eq]
    exact (List.getElem?_eq_some_iff.mp there).1
  have between := List.getElem?_eq_getElem inside
  exact (first.each place tree trace _ child here between).trans
    (second.each place tree _ next child between there)

end RecountsEach

/-! ## One tick -/

/-- Only children of the node were ticked right below it, and it obeyed its rule. -/
structure Account.Lapped (account : Account Nat μ β) : Prop where
  below : ∀ lap ∈ account.inner, lap.part ∈ account.part.children
  rules : account.part.kind.Rules (account.inner.map Account.status) account.status

/-- The account is of a tick of the tree and says how all counts changed. -/
structure Remembers (tree : Tree Nat μ β) (before : Trace μ)
    (account : Account Nat μ β) (after : Trace μ) : Prop where
  part : account.part = tree
  entries : ∀ entry ∈ account.entries, entry.part ∈ tree.nodes ∧ entry.Lapped
  recounts : before.Fits tree → Recounts tree before [account] after

/-- The account is of a tick of the child at this place. -/
abbrev RemembersAt (trees : List (Tree Nat μ β)) (place : Nat) (before : Trace μ)
    (account : Account Nat μ β) (after : Trace μ) : Prop :=
  ∃ tree, trees[place]? = some tree ∧ Remembers tree before account after

namespace Tree

/-- No two nodes have the same identity. -/
def Distinct (trees : List (Tree Nat μ β)) : Prop :=
  ((trees.flatMap nodes).map id).Nodup

variable {trees : List (Tree Nat μ β)}

/-- Nodes below different children have different identities. -/
theorem Distinct.ne (distinct : Distinct trees) {place other : Nat}
    {tree otherTree : Tree Nat μ β}
    (apart : place ≠ other)
    (found : trees[place]? = some tree)
    (foundOther : trees[other]? = some otherTree)
    {part otherPart : Tree Nat μ β}
    (among : part ∈ tree.nodes) (amongOther : otherPart ∈ otherTree.nodes) :
    part.id ≠ otherPart.id := by
  rw [Distinct, List.map_flatMap, List.nodup_flatMap] at distinct
  have disjoint := List.pairwise_iff_getElem.mp distinct.2
  rcases List.getElem?_eq_some_iff.mp found with ⟨inside, rfl⟩
  rcases List.getElem?_eq_some_iff.mp foundOther with ⟨insideOther, rfl⟩
  have listed := List.mem_map_of_mem (f := id) among
  have listedOther := List.mem_map_of_mem (f := id) amongOther
  intro same
  rcases Nat.lt_or_gt_of_ne apart with before | before
  · exact disjoint _ _ inside insideOther before listed (same ▸ listedOther)
  · exact disjoint _ _ insideOther inside before listedOther (same ▸ listed)

theorem distinct_node {number : Nat} {name : String} {kind : Kind μ β} :
    Distinct [node number name kind trees] ↔
      (∀ part ∈ trees.flatMap nodes, part.id ≠ number) ∧ Distinct trees := by
  rw [Distinct, List.flatMap_singleton, nodes, nodesOfList_eq_flatMap,
    List.map_cons, List.nodup_cons, List.mem_map, Distinct]
  simp only [not_exists, not_and]
  rfl

end Tree

/-- The trace at a place has the shape of the tree at that place. -/
theorem Trace.fits_at {trees : List (Tree Nat μ β)} {traces : List (Trace μ)}
    (fits : List.Forall₂ Trace.Fits traces trees) {place : Nat}
    {tree : Tree Nat μ β} {trace : Trace μ}
    (found : trees[place]? = some tree) (here : traces[place]? = some trace) :
    trace.Fits tree := by
  rcases List.getElem?_eq_some_iff.mp found with ⟨inside, rfl⟩
  rcases List.getElem?_eq_some_iff.mp here with ⟨insideToo, rfl⟩
  exact fits.get insideToo inside

/-- A tick of one child counts for that child only. -/
theorem RecountsEach.one {trees : List (Tree Nat μ β)}
    (distinct : Tree.Distinct trees)
    {before : List (Trace μ)} {place : Nat} {tree : Tree Nat μ β}
    {trace next : Trace μ} {account : Account Nat μ β}
    (fits : List.Forall₂ Trace.Fits before trees)
    (found : trees[place]? = some tree)
    (here : before[place]? = some trace)
    (remembers : Remembers tree trace account next) :
    RecountsEach trees before [account] (before.set place next) := by
  have recounts := remembers.recounts (Trace.fits_at fits found here)
  refine ⟨Trace.forall₂_set fits found recounts.fits, ?_⟩
  intro other otherTree otherTrace otherNext foundOther hereOther there
  by_cases same : place = other
  · subst same
    cases found.symm.trans foundOther
    cases here.symm.trans hereOther
    rw [List.getElem?_set_self (List.getElem?_eq_some_iff.mp here).1] at there
    cases there
    exact recounts
  · rw [List.getElem?_set_ne same] at there
    cases hereOther.symm.trans there
    refine .refl (Trace.fits_at fits foundOther hereOther) fun part among => ?_
    refine Account.ticksOf_eq_nil ?_
    intro only member entry within
    cases List.mem_singleton.mp member
    exact distinct.ne same found foundOther (remembers.entries entry within).1 among

/-- All ticks of the children together. -/
theorem RecountsEach.of_moves {trees : List (Tree Nat μ β)}
    (distinct : Tree.Distinct trees)
    {before after : List (Trace μ)} {accounts : List (Account Nat μ β)}
    (fits : List.Forall₂ Trace.Fits before trees)
    (moves : Moves (MovesOne (RemembersAt trees)) before accounts after) :
    RecountsEach trees before accounts after := by
  -- one account after the other; between two of them all traces still fit
  induction moves with
  | none =>
    refine ⟨fits, fun place tree trace next found here there => ?_⟩
    cases here.symm.trans there
    exact .refl (Trace.fits_at fits found here) fun _ _ => rfl
  | next first rest ih =>
    rcases first with ⟨place, trace, next, here, ⟨tree, found, remembers⟩, rfl⟩
    have begins := RecountsEach.one distinct fits found here remembers
    exact begins.trans (ih begins.fits)

/-- The count of a node comes of its own account, all others below it of those that
are in it. -/
theorem Recounts.node {number : Nat} {name : String} {kind : Kind μ β}
    {children : List (Tree Nat μ β)} {before after : Trace μ} {answer : Status}
    {inner : List (Account Nat μ β)}
    (fresh : ∀ part ∈ children.flatMap Tree.nodes, part.id ≠ number)
    (fits : List.Forall₂ Trace.Fits before.children children)
    (counted : after.count = kind.counted before.count inner.length)
    (below : RecountsEach children before.children inner after.children)
    (within : ∀ account ∈ inner, ∀ entry ∈ account.entries,
      entry.part ∈ children.flatMap Tree.nodes) :
    Recounts (.node number name kind children) before
      [.of (.node number name kind children) answer inner] after := by
  rcases before with ⟨status, count, memory, traces⟩
  rcases after with ⟨last, next, remembered, nexts⟩
  refine ⟨(Trace.fits_node ..).mpr below.fits, ?_⟩
  -- nothing below the node has its number, so that only its own account is about it
  have self : Account.ticksOf number
      [.of (.node number name kind children) answer inner] =
        [.of (.node number name kind children) answer inner] := by
    refine Account.ticksOf_singleton_self (Account.ticksOf_eq_nil ?_)
    exact fun account member entry listed =>
      fresh entry.part (within account member entry listed)
  have others : ∀ part ∈ children.flatMap Tree.nodes,
      Account.ticksOf part.id inner = Account.ticksOf part.id
        [.of (.node number name kind children) answer inner] := by
    intro part among
    rw [Account.ticksOf_singleton_of_ne]
    exact (fresh part among).symm
  rw [Trace.counts_node, Trace.counts_node, Tree.nodes,
    Tree.nodesOfList_eq_flatMap, Account.recounted, List.zipWith_cons_cons,
    Tree.id, self]
  refine congrArg₂ List.cons counted ?_
  exact (below.counts fits).trans (Account.recounted_congr others _)

namespace Tree

mutual

/-- A tick adds one account of itself, of which all counts come. -/
theorem minuted_files [Blackboard β] (bound : Nat) :
    (tree : Tree Nat μ β) → Distinct [tree] →
      (tree.minuted bound).Files (FilesOne (Remembers tree))
  | .node number name kind children, distinct => by
    intro trace minutes step ends
    rw [minuted, Ticker.accounted] at ends
    rcases exists_of_bind ends with ⟨inner, ticked, same⟩
    cases same
    rcases distinct_node.mp distinct with ⟨fresh, distinctBelow⟩
    rcases Ticker.Files.node (minutedList_files bound children distinctBelow) bound
      kind _ _ _ ticked with ⟨added, grown, moves, rules, counted⟩
    simp only [List.nil_append] at grown
    subst grown
    have laps : ∀ lap ∈ inner.board.accounts, lap.part ∈ children ∧
        ∀ entry ∈ lap.entries,
          entry.part ∈ children.flatMap nodes ∧ entry.Lapped := by
      refine moves.forall_accounts ?_
      rintro _ lap _ ⟨place, _, _, _, ⟨child, found, remembers⟩, _⟩
      have among := List.mem_of_getElem? found
      refine ⟨remembers.part ▸ among, fun entry within => ?_⟩
      have ⟨listed, lapped⟩ := remembers.entries entry within
      exact ⟨List.mem_flatMap.mpr ⟨child, among, listed⟩, lapped⟩
    refine ⟨_, rfl, _, rfl, rfl, rfl, fun entry listed => ?_, fun fits => ?_⟩
    · rw [nodes, nodesOfList_eq_flatMap]
      rcases Account.mem_entries.mp listed with rfl | ⟨lap, member, within⟩
      · exact ⟨List.mem_cons_self .., fun lap member => (laps lap member).1, rules⟩
      · have ⟨among, lapped⟩ := (laps lap member).2 entry within
        exact ⟨List.mem_cons_of_mem _ among, lapped⟩
    · rcases trace with ⟨status, count, memory, traces⟩
      have fitsBelow := (Trace.fits_node ..).mp fits
      exact .node fresh fitsBelow counted
        (.of_moves distinctBelow fitsBelow moves)
        fun lap member entry within => ((laps lap member).2 entry within).1

theorem minutedList_files [Blackboard β] (bound : Nat) :
    (trees : List (Tree Nat μ β)) → Distinct trees →
      Ticker.Files.Each (RemembersAt trees) (minutedList bound trees)
  | [], _ => by
    intro place tick found
    cases found
  | tree :: trees, distinct => by
    intro place tick found
    rw [minutedList] at found
    rw [Distinct, List.flatMap_cons, List.map_append, List.nodup_append'] at distinct
    cases place with
    | zero =>
      cases found
      intro trace minutes step ends
      have first : Distinct [tree] := by
        rw [Distinct, List.flatMap_singleton]
        exact distinct.1
      rcases minuted_files bound tree first _ _ _ ends with
        ⟨added, grown, account, only, answered, remembers⟩
      exact ⟨added, grown, account, only, answered, tree, rfl, remembers⟩
    | succ place => exact minutedList_files bound trees distinct.2.1 place tick found

end

end Tree

/-! ## Places -/

namespace Tree

mutual

/-- The same tree, with consecutive numbers as identities, in the order of its
nodes. -/
def rankedFrom (first : Nat) : Tree ι μ β → Tree Nat μ β
  | .node _ name kind children =>
    .node first name kind (rankedListFrom (first + 1) children)

def rankedListFrom (first : Nat) : List (Tree ι μ β) → List (Tree Nat μ β)
  | [] => []
  | tree :: trees =>
    tree.rankedFrom first :: rankedListFrom (first + tree.size) trees

end

/-- The same tree, each node with its place among all nodes as its identity. -/
def ranked (tree : Tree ι μ β) : Tree Nat μ β := tree.rankedFrom 0

mutual

theorem erase_rankedFrom (first : Nat) :
    (tree : Tree ι μ β) → (tree.rankedFrom first).erase = tree.erase
  | .node _ name kind children => by
    rw [rankedFrom, erase, erase, eraseList_rankedListFrom (first + 1) children]

theorem eraseList_rankedListFrom (first : Nat) :
    (trees : List (Tree ι μ β)) →
      eraseList (rankedListFrom first trees) = eraseList trees
  | [] => rfl
  | tree :: trees => by
    rw [rankedListFrom, eraseList, eraseList, erase_rankedFrom first tree,
      eraseList_rankedListFrom _ trees]

end

mutual

theorem ids_rankedFrom (first : Nat) :
    (tree : Tree ι μ β) →
      (tree.rankedFrom first).nodes.map id = List.range' first tree.size
  | .node number name kind children => by
    rw [rankedFrom, nodes, List.map_cons, ids_rankedListFrom (first + 1) children,
      size, nodes, List.length_cons, List.range'_succ]
    rfl

theorem ids_rankedListFrom (first : Nat) :
    (trees : List (Tree ι μ β)) →
      (nodesOfList (rankedListFrom first trees)).map id =
        List.range' first (nodesOfList trees).length
  | [] => rfl
  | tree :: trees => by
    rw [rankedListFrom, nodesOfList, nodesOfList, List.map_append,
      ids_rankedFrom first tree, ids_rankedListFrom _ trees, List.length_append,
      ← List.range'_append_1]
    rfl

end

theorem erase_ranked (tree : Tree ι μ β) : tree.ranked.erase = tree.erase :=
  erase_rankedFrom 0 tree

theorem ids_ranked (tree : Tree ι μ β) :
    tree.ranked.nodes.map id = List.range tree.size := by
  rw [ranked, ids_rankedFrom, List.range_eq_range']

theorem distinct_ranked (tree : Tree ι μ β) : Distinct [tree.ranked] := by
  rw [Distinct, List.flatMap_singleton, ids_ranked]
  exact List.nodup_range

end Tree

/-! ## Many calls -/

namespace Tree

mutual

/-- Setting up leaves all counts alone. -/
theorem counts_setup :
    (tree : Tree ι μ β) → (trace : Trace μ) → (board : β) →
      (tree.setup trace board).1.counts = trace.counts
  | node _ _ kind children, .node status count memory traces, board => by
    rw [setup, Trace.counts_node, Trace.counts_node,
      counts_setupList children traces]

theorem counts_setupList :
    (trees : List (Tree ι μ β)) → (traces : List (Trace μ)) → (board : β) →
      (setupList trees traces board).1.flatMap Trace.counts =
        traces.flatMap Trace.counts
  | tree :: trees, trace :: traces, board => by
    rw [setupList, List.flatMap_cons, List.flatMap_cons, counts_setup tree,
      counts_setupList trees]
  | [], traces, board => by
    rw [setupList]
    all_goals simp
  | _ :: _, [], board => by
    rw [setupList]
    all_goals simp

end

end Tree

namespace Trace

mutual

/-- So does forgetting the statuses. -/
theorem counts_clear : (trace : Trace μ) → trace.clear.counts = trace.counts
  | node status count memory traces => by
    rw [clear, counts_node, counts_node, counts_clearList traces]

theorem counts_clearList :
    (traces : List (Trace μ)) →
      (clearList traces).flatMap counts = traces.flatMap counts
  | [] => rfl
  | trace :: traces => by
    rw [clearList, List.flatMap_cons, List.flatMap_cons, counts_clear trace,
      counts_clearList traces]

end

end Trace

/-- A tick that ends has the same end when minutes are taken, whatever stands in them
already. -/
theorem Tree.exists_minuted [Blackboard β] {node : Node μ β} {bound : Nat}
    {trace : Trace μ} {board : β} {step : Step (Trace μ) β}
    (ends : node.tick bound trace board = .ok step)
    (accounts : List (Account Nat μ β)) :
    ∃ minuted, node.ranked.minuted bound trace ⟨board, accounts⟩ = .ok minuted ∧
      minuted.plain = step := by
  have retells := minuted_retells bound node.ranked trace ⟨board, accounts⟩
  rw [← tick_erase, erase_ranked, tick_erase, ends] at retells
  cases ran : node.ranked.minuted bound trace ⟨board, accounts⟩ with
  | error found =>
    rw [ran] at retells
    cases retells
  | ok minuted =>
    rw [ran] at retells
    exact ⟨minuted, rfl, Except.ok.inj retells⟩

/-- What the tree remembers, and the accounts of all its ticks so far. -/
structure Diary (μ β : Type) where
  trace : Trace μ
  accounts : List (Account Nat μ β)

/-- All accounts obey the rules, and all counts come of the accounts. -/
structure Diary.Tallies (diary : Diary μ β) (node : Node μ β) : Prop where
  entries : ∀ entry ∈ diary.accounts.flatMap Account.entries,
    entry.part ∈ node.ranked.nodes ∧ entry.Lapped
  recounts : Recounts node.ranked (.blank node) diary.accounts diary.trace

namespace LiveNode

variable [Blackboard β]

/-- The diary after a call; a tick adds its account. -/
def note (node : Node μ β) (diary : Diary μ β) :
    Call β → Except TickError (Diary μ β)
  | .setup board => .ok ⟨(node.ranked.setup diary.trace board).1, diary.accounts⟩
  | .tick bound board => do
    let step ← node.ranked.minuted bound diary.trace ⟨board, diary.accounts⟩
    return ⟨step.state, step.board.accounts⟩
  | .clear => .ok ⟨diary.trace.clear, diary.accounts⟩

/-- The diary of a built tree after several calls. -/
def diary (node : Node μ β) (calls : List (Call β)) :
    Except TickError (Diary μ β) :=
  calls.foldlM (note node) ⟨.blank node, []⟩

variable {node : Node μ β} {live next : LiveNode μ β} {book : Diary μ β}

/-- Whatever a call does, the diary goes along with it. -/
theorem exists_note (same : live.node = node) (trace : book.trace = live.trace)
    (tallies : book.Tallies node) {call : Call β}
    (called : live.call call = .ok next) :
    ∃ after, note node book call = .ok after ∧ next.node = node ∧
      after.trace = next.trace ∧ after.Tallies node := by
  rcases live with ⟨built, remembered⟩
  rcases book with ⟨_, accounts⟩
  cases same
  cases trace
  rcases tallies with ⟨entries, fits, counts⟩
  cases call with
  | setup board =>
    cases called
    have alike := Tree.setup_erase built.ranked
    rw [Tree.erase_ranked, Tree.setup_erase] at alike
    refine ⟨_, rfl, rfl, congrArg Prod.fst (congrFun₂ alike.symm _ _), entries, ?_⟩
    exact ⟨Tree.setup_fits _ _ board fits,
      (Tree.counts_setup ..).trans counts⟩
  | clear =>
    cases called
    exact ⟨_, rfl, rfl, rfl, entries, Trace.clear_fits _ _ fits,
      (Trace.counts_clear _).trans counts⟩
  | tick bound board =>
    rcases exists_of_bind called with ⟨outer, stepped, same⟩
    cases same
    rcases exists_of_bind stepped with ⟨step, ticked, same⟩
    cases same
    rcases Tree.exists_minuted ticked accounts with ⟨minuted, ran, plain⟩
    rcases Tree.minuted_files bound built.ranked (Tree.distinct_ranked built)
      _ _ _ ran with ⟨_, grown, account, rfl, _, remembers⟩
    refine ⟨⟨minuted.state, minuted.board.accounts⟩, ?_, rfl,
      congrArg Step.state plain, ?_, ?_⟩
    · rw [note, ran]
      rfl
    · rw [grown]
      intro entry listed
      rw [List.flatMap_append, List.flatMap_singleton] at listed
      rcases List.mem_append.mp listed with earlier | now
      · exact entries entry earlier
      · exact remembers.entries entry now
    · rw [grown]
      exact Recounts.trans ⟨fits, counts⟩ (remembers.recounts fits)

/-- The diary after all calls is one of them. -/
theorem exists_notes (same : live.node = node) (trace : book.trace = live.trace)
    (tallies : book.Tallies node) {calls : List (Call β)}
    (called : live.callAll calls = .ok next) :
    ∃ after, calls.foldlM (note node) book = .ok after ∧ next.node = node ∧
      after.trace = next.trace ∧ after.Tallies node := by
  induction calls generalizing live book with
  | nil =>
    cases called
    exact ⟨book, rfl, same, trace, tallies⟩
  | cons first calls ih =>
    rw [callAll, List.foldlM_cons] at called
    rcases exists_of_bind called with ⟨middle, begun, goes⟩
    rcases exists_note same trace tallies begun with
      ⟨noted, written, sameStill, traceStill, talliesStill⟩
    rw [List.foldlM_cons, written]
    exact ih sameStill traceStill talliesStill goes

omit [Blackboard β] in
/-- The diary of a tree that was never ticked is empty. -/
theorem tallies_blank (node : Node μ β) :
    (⟨.blank node, []⟩ : Diary μ β).Tallies node := by
  refine ⟨by simp, .refl ?_ fun _ _ => rfl⟩
  rw [← Trace.blank_erase, ← Tree.erase_ranked, Trace.blank_erase]
  exact Trace.blank_fits _

end LiveNode

/-! ## Loops -/

/-- The count of a loop that begins anew with every tick is that of its last tick;
any other loop counts all laps. -/
theorem Kind.tally_decorator {transform : Decorator}
    (loops : transform.isLoop = true) (ticks : List (Account Nat μ β)) :
    (decorator transform : Kind μ β).tally 0 ticks =
      if transform.resets then (ticks.getLast?.map Account.laps).getD 0
      else (ticks.map Account.laps).sum := by
  simp only [tally, counted, loops, if_true]
  by_cases resets : transform.resets = true
  · simp only [resets, if_true]
    rcases List.eq_nil_or_concat ticks with rfl | ⟨earlier, tick, rfl⟩
    · rfl
    · rw [List.concat_eq_append, List.foldl_concat, List.getLast?_concat,
        Nat.zero_add]
      rfl
  · simp only [resets]
    rw [List.sum_eq_foldl, List.foldl_map]
    rfl

/-- The count at each place comes of the ticks of the node at that place. -/
theorem Diary.Tallies.count {node part : Node μ β} {diary : Diary μ β}
    {trace : Trace μ}
    (tallies : diary.Tallies node) {place : Nat}
    (entry : (node.nodes.zip diary.trace.nodes)[place]? = some (part, trace)) :
    trace.count =
      part.kind.tally 0 (Account.ticksOf place diary.accounts) := by
  have found := List.getElem?_zip_eq_some.mp entry
  have kinds : node.ranked.nodes.map Tree.kind = node.nodes.map Tree.kind := by
    rw [← Tree.kinds_erase, Tree.erase_ranked, Tree.kinds_erase]
  replace kinds := congrArg (·[place]?) kinds
  have ids := congrArg (·[place]?) node.ids_ranked
  have counts := congrArg (·[place]?) tallies.recounts.counts
  simp only [Trace.counts, List.getElem?_map, found.1, found.2, Option.map_some,
    Account.recounted, List.getElem?_zipWith] at counts kinds ids
  cases here : node.ranked.nodes[place]? with
  | none =>
    rw [here] at kinds
    cases kinds
  | some twin =>
    cases begun : (Trace.blank node).nodes[place]? with
    | none =>
      rw [here, begun] at counts
      cases counts
    | some blank =>
      rw [here] at kinds ids
      rw [here, begun] at counts
      have zero : blank.count = 0 :=
        (Trace.blank_of_mem_nodes node (List.mem_of_getElem? begun)).2
      have number : twin.id = place := by
        rcases List.getElem?_eq_some_iff.mp ids.symm with ⟨_, same⟩
        rw [← same, List.getElem_range]
      have kind : twin.kind = part.kind := Option.some.inj kinds
      rw [Option.some.inj counts, zero, number, kind]

/-- The count of each loop is that of its latest tick if it begins anew with every
tick, zero before the first one; otherwise it is that of all its ticks. -/
def LiveNode.CountsLaps (live : LiveNode μ β)
    (accounts : List (Account Nat μ β)) : Prop :=
  ∀ (place : Nat) (part : Node μ β) (trace : Trace μ) (transform : Decorator),
    live.entries[place]? = some (part, trace) →
    part.kind = .decorator transform →
    transform.isLoop = true →
      let ticks := Account.ticksOf place accounts
      trace.count =
        if transform.resets then (ticks.getLast?.map Account.laps).getD 0
        else (ticks.map Account.laps).sum

/--
Loops tick their child and count exactly: however often a built tree is set up,
ticked and cleared, on whatever blackboards, each tick of a loop, also of one within
another loop, obeys its rule.  A retry ticks its child until the first answer other
than failure, so many times at most, and gives that answer, or failure; a repeat does
so with success; a loop that waits for a failure, if its tick ends, succeeds with the
first failure and is running with the first child that is.  The count of a loop that
begins anew is the number of laps in its latest tick; the count of any other loop is
the number of all laps so far.
-/
theorem loops_tick_and_count_exactly [Blackboard β]
    (builder last : Builder)
    (spec : Spec μ β)
    (node : Node μ β)
    (built : builder.build spec = (.ok node, last))
    (calls : List (LiveNode.Call β)) :
    (∃ live diary, (LiveNode.ofNode node).callAll calls = .ok live ∧
      LiveNode.diary node calls = .ok diary ∧
      diary.trace = live.trace ∧
      (∀ entry ∈ diary.accounts.flatMap Account.entries,
        entry.part ∈ node.ranked.nodes ∧ entry.Lapped) ∧
      live.CountsLaps diary.accounts) ∨
    (LiveNode.ofNode node).callAll calls = .error .unbounded ∧
      ∃ part ∈ node.nodes, part.kind.IsEndless := by
  rcases (built_trees_are_safe builder last spec node built).2 calls with
    ⟨live, called, _⟩ | exceeded
  · rcases LiveNode.exists_notes rfl rfl (LiveNode.tallies_blank node) called with
      ⟨diary, noted, same, trace, tallies⟩
    refine .inl ⟨live, diary, called, noted, trace, tallies.entries, ?_⟩
    intro place part remembered transform entry kind loops
    rw [LiveNode.entries, same, ← trace] at entry
    rw [tallies.count entry, kind]
    exact Kind.tally_decorator loops _
  · exact .inr exceeded

/-- A loop within a loop, and one that never ticks its child. -/
def lapsSpec : Spec Nat Workbench :=
  .sequence "Root"
    [.decorate "Again" (.retry 2 false)
      (.decorate "Turns" (.repeated 3 true)
        (.ofLeaf "Turn"
          (Workbench.player "turn" #[.success, .success, .failure]))),
     .decorate "Never" (.repeated 0 true)
      (.ofLeaf "Rest" (Workbench.player "rest" #[.failure]))]

/-- It is ticked on one workbench, and after it was cleared on another one. -/
def lapsCalls : List (LiveNode.Call Workbench) :=
  [.tick 1 (.new (.ofSeed 0) none), .clear, .tick 1 (.new (.ofSeed 1) none)]

theorem lapsCalls_counts :
    (lapsSpec.build.toOption.bind fun node =>
      ((LiveNode.ofNode node).callAll lapsCalls).toOption.map
        LiveNode.loopCounts) = some [4, 3, 0] := by
  decide +kernel

/-- The retry went round twice in each of two ticks, and each time it did so the
repeat went round three times. -/
theorem loops_tick_and_count_exactly_of_laps :
    ∃ node last live diary,
      Builder.fresh.build lapsSpec = (.ok node, last) ∧
      (LiveNode.ofNode node).callAll lapsCalls = .ok live ∧
      LiveNode.diary node lapsCalls = .ok diary ∧
      diary.trace = live.trace ∧
      (∀ entry ∈ diary.accounts.flatMap Account.entries,
        entry.part ∈ node.ranked.nodes ∧ entry.Lapped) ∧
      live.CountsLaps diary.accounts ∧
      live.loopCounts = [4, 3, 0] := by
  obtain ⟨node, last, built⟩ : ∃ node last,
      Builder.fresh.build lapsSpec = (.ok node, last) :=
    ⟨_, _, rfl⟩
  have counts := lapsCalls_counts
  rw [Spec.build, built] at counts
  rcases loops_tick_and_count_exactly Builder.fresh last lapsSpec node built
      lapsCalls with
    ⟨live, diary, called, noted, trace, each, counted⟩ | ⟨exceeded, _⟩
  · replace counts : some live.loopCounts = some [4, 3, 0] := by
      rw [← counts, Except.toOption, Option.bind_some, called]
      rfl
    exact ⟨node, last, live, diary, built, called, noted, trace, each, counted,
      Option.some.inj counts⟩
  · have failed : (none : Option (List Nat)) = some [4, 3, 0] := by
      rw [← counts, Except.toOption, Option.bind_some, exceeded]
      rfl
    cases failed

end Disclosure
