import Disclosure.Proofs.Tree.Numbering
import Mathlib.Logic.Relation

/-!
# The algebra of composites

Turning the answer of a sequence around is the same as a fallback over its children
with their answers turned around, and the other way round; a sequence within a
sequence can be dissolved, and so can a fallback within a fallback.  The two sides
of such a law are different trees, which remember different things.

So trees are compared as machines.  Two machines are alike when what they remember
can be related such that they give the same answers, up to a turn, and do the same to
the blackboard.  A sequence and a fallback are chains, one machine after the other,
and the laws come down to this composition: it has a unit, it is associative, and it
respects turns.
-/

namespace Disclosure

variable {ι μ β : Type} {σ τ ρ σ' τ' : Type}

/-! ## Agreement of two steps -/

/-- The same error, or the same blackboard, an answer that is the other one turned,
and related memories. -/
inductive Agree (turn : Status → Status) (rel : σ → τ → Prop) :
    Except TickError (Step σ β) → Except TickError (Step τ β) → Prop where
  | ok {status : Status} {state : σ} {partner : τ} {board : β}
      (related : rel state partner) :
    Agree turn rel (.ok ⟨status, state, board⟩)
      (.ok ⟨turn status, partner, board⟩)
  | error {found : TickError} : Agree turn rel (.error found) (.error found)

namespace Agree

variable {turn again : Status → Status} {rel : σ → τ → Prop}
  {ticked : Except TickError (Step σ β)}
  {partner : Except TickError (Step τ β)}

theorem refl (ticked : Except TickError (Step σ β)) :
    Agree id Eq ticked ticked := by
  cases ticked with
  | ok step => exact .ok rfl
  | error found => exact .error

theorem symm (agree : Agree turn rel ticked partner)
    (back : ∀ status, again (turn status) = status) :
    Agree again (fun state first => rel first state) partner ticked := by
  cases agree with
  | @ok status state partner board related =>
    have turned : Agree again (fun state first => rel first state)
        (.ok ⟨turn status, partner, board⟩)
        (.ok ⟨again (turn status), state, board⟩) :=
      .ok related
    rwa [back] at turned
  | error => exact .error

theorem trans {last : Except TickError (Step ρ β)} {relToo : τ → ρ → Prop}
    (first : Agree turn rel ticked partner)
    (second : Agree again relToo partner last) :
    Agree (again ∘ turn) (Relation.Comp rel relToo) ticked last := by
  cases first with
  | ok related =>
    cases second with
    | ok relatedToo => exact .ok ⟨_, related, relatedToo⟩
  | error =>
    cases second with
    | error => exact .error

theorem bind {relAfter : σ' → τ' → Prop}
    {next : Step σ β → Except TickError (Step σ' β)}
    {partnerNext : Step τ β → Except TickError (Step τ' β)}
    (first : Agree turn rel ticked partner)
    (second : ∀ status state partnerState board, rel state partnerState →
      Agree again relAfter (next ⟨status, state, board⟩)
        (partnerNext ⟨turn status, partnerState, board⟩)) :
    Agree again relAfter (ticked >>= next) (partner >>= partnerNext) := by
  cases first with
  | ok related => exact second _ _ _ _ related
  | error => exact .error

/-- Only the answer is turned, and what is remembered is put together anew. -/
theorem wrapped (turn : Status → Status) {wrap : Step σ β → τ}
    {rel : τ → σ → Prop}
    (back : ∀ status, again (turn status) = status)
    (wraps : ∀ step, rel (wrap step) step.state) :
    Agree again rel
      (ticked >>= fun step => .ok ⟨turn step.status, wrap step, step.board⟩)
      ticked := by
  cases ticked with
  | error found => exact .error
  | ok step =>
    have turned : Agree again rel
        (.ok ⟨turn step.status, wrap step, step.board⟩)
        (.ok ⟨again (turn step.status), step.state, step.board⟩) :=
      .ok (wraps step)
    rwa [back] at turned

end Agree

/-! ## Machines -/

/-- Kinds that tick their children in order as long as the answer is `through`. -/
inductive Kind.Chains : Kind μ β → Status → Prop where
  | sequence : Chains .sequence .success
  | fallback : Chains .fallback .failure

theorem Kind.Chains.arityError_eq_none {kind : Kind μ β} {through : Status}
    {name : String} {children : Nat}
    (chains : kind.Chains through) :
    kind.arityError? name children = none := by
  cases chains <;> rfl

/-- What a tree does, whatever it is made of. -/
structure Machine (σ β : Type) where
  start : σ
  setup : σ → β → σ × β
  tick : (bound : Nat) → Ticker σ β

/-- Setting up and ticking keep the relation, and the answers agree up to a turn. -/
structure Machine.Imitates (turn : Status → Status) (rel : σ → τ → Prop)
    (machine : Machine σ β) (other : Machine τ β) : Prop where
  start : rel machine.start other.start
  setup : ∀ {state partner} board, rel state partner →
    rel (machine.setup state board).1 (other.setup partner board).1 ∧
      (other.setup partner board).2 = (machine.setup state board).2
  tick : ∀ bound {state partner} board, rel state partner →
    Agree turn rel (machine.tick bound state board)
      (other.tick bound partner board)

/-- The machines cannot be told apart from outside, except for turned answers. -/
def Machine.Like (turn : Status → Status) (machine : Machine σ β)
    (other : Machine τ β) : Prop :=
  ∃ rel, machine.Imitates turn rel other

namespace Machine

variable {turn again : Status → Status} {through : Status}

/-- A machine that answers at once. -/
def idle (through : Status) : Machine Unit β where
  start := ()
  setup state board := (state, board)
  tick _ state board := .ok ⟨through, state, board⟩

/-- The second machine is ticked only if the first one answers `through`. -/
def andThen (through : Status) (machine : Machine σ β) (other : Machine τ β) :
    Machine (σ × τ) β where
  start := (machine.start, other.start)
  setup state board :=
    let (first, board) := machine.setup state.1 board
    let (second, board) := other.setup state.2 board
    ((first, second), board)
  tick bound state board := do
    let first ← machine.tick bound state.1 board
    if first.status = through then
      let second ← other.tick bound state.2 first.board
      return ⟨second.status, (first.state, second.state), second.board⟩
    else
      return ⟨first.status, (first.state, state.2), first.board⟩

namespace Like

variable {machine : Machine σ β} {other : Machine τ β} {third : Machine ρ β}

theorem refl (machine : Machine σ β) : machine.Like id machine := by
  refine ⟨Eq, rfl, ?_, ?_⟩
  · rintro state _ board rfl
    exact ⟨rfl, rfl⟩
  · rintro bound state _ board rfl
    exact .refl _

theorem symm (like : machine.Like turn other)
    (back : ∀ status, again (turn status) = status) :
    other.Like again machine := by
  rcases like with ⟨rel, imitates⟩
  refine ⟨fun state first => rel first state, imitates.start, ?_, ?_⟩
  · intro state partner board related
    exact (imitates.setup board related).imp id Eq.symm
  · intro bound state partner board related
    exact (imitates.tick bound board related).symm back

theorem back (like : machine.Like id other) : other.Like id machine :=
  like.symm fun _ => rfl

theorem trans (first : machine.Like turn other)
    (second : other.Like again third) :
    machine.Like (again ∘ turn) third := by
  rcases first with ⟨rel, imitates⟩
  rcases second with ⟨relToo, imitatesToo⟩
  refine ⟨Relation.Comp rel relToo,
    ⟨_, imitates.start, imitatesToo.start⟩, ?_, ?_⟩
  · rintro state partner board ⟨middle, related, relatedToo⟩
    have one := imitates.setup board related
    have two := imitatesToo.setup board relatedToo
    exact ⟨⟨_, one.1, two.1⟩, two.2.trans one.2⟩
  · rintro bound state partner board ⟨middle, related, relatedToo⟩
    exact (imitates.tick bound board related).trans
      (imitatesToo.tick bound board relatedToo)

end Like

/-! ## One machine after the other -/

section Laws

variable {machine : Machine σ β} {other : Machine τ β}
  {machine' : Machine σ' β} {other' : Machine τ' β}

theorem Like.idle : (idle (β := β) through).Like turn (.idle (turn through)) :=
  ⟨Eq, rfl, fun _ related => ⟨related, rfl⟩,
    fun _ _ _ _ related => .ok related⟩

/-- What is alike can be put in its place. -/
theorem Like.andThen (turns : Function.Injective turn)
    (first : machine.Like turn machine') (second : other.Like turn other') :
    (machine.andThen through other).Like turn
      (machine'.andThen (turn through) other') := by
  rcases first with ⟨rel, imitates⟩
  rcases second with ⟨relToo, imitatesToo⟩
  refine ⟨fun state partner => rel state.1 partner.1 ∧ relToo state.2 partner.2,
    ⟨imitates.start, imitatesToo.start⟩, ?_, ?_⟩
  · rintro state partner board ⟨related, relatedToo⟩
    have one := imitates.setup board related
    have two := imitatesToo.setup (machine.setup state.1 board).2 relatedToo
    simp only [Machine.andThen, one.2]
    exact ⟨⟨one.1, two.1⟩, two.2⟩
  · rintro bound state partner board ⟨related, relatedToo⟩
    refine (imitates.tick bound board related).bind ?_
    intro status state partner board related
    by_cases goesOn : status = through
    · simp only [if_pos goesOn, if_pos (congrArg turn goesOn)]
      refine (imitatesToo.tick bound board relatedToo).bind ?_
      intro status state partner board relatedToo
      exact .ok ⟨related, relatedToo⟩
    · have stops : ¬ turn status = turn through := fun same =>
        goesOn (turns same)
      simp only [if_neg goesOn, if_neg stops]
      exact .ok ⟨related, relatedToo⟩

theorem Like.andThen_left (first : machine.Like id machine') :
    (machine.andThen through other).Like id (machine'.andThen through other) :=
  first.andThen Function.injective_id (.refl other)

theorem Like.andThen_right (second : other.Like id other') :
    (machine.andThen through other).Like id (machine.andThen through other') :=
  .andThen Function.injective_id (.refl machine) second

theorem idle_andThen :
    ((idle through).andThen through machine).Like id machine := by
  refine ⟨fun state partner => state.2 = partner, rfl, ?_, ?_⟩
  · rintro state _ board rfl
    exact ⟨rfl, rfl⟩
  · rintro bound state _ board rfl
    have begins : ((idle through).andThen through machine).tick bound state board =
        (machine.tick bound state.2 board >>= fun second =>
          .ok ⟨second.status, (state.1, second.state), second.board⟩) :=
      if_pos rfl
    rw [begins]
    exact .wrapped id (fun _ => rfl) fun _ => rfl

theorem andThen_assoc {third : Machine ρ β} :
    ((machine.andThen through other).andThen through third).Like id
      (machine.andThen through (other.andThen through third)) := by
  refine ⟨fun state partner =>
    partner = (state.1.1, state.1.2, state.2), rfl, ?_, ?_⟩
  · rintro state _ board rfl
    exact ⟨rfl, rfl⟩
  · rintro bound state _ board rfl
    simp only [andThen, bind_assoc]
    refine (Agree.refl _).bind ?_
    rintro status first _ board rfl
    by_cases goesOn : status = through
    · simp only [id, if_pos goesOn, bind_assoc]
      refine (Agree.refl _).bind ?_
      rintro answer second _ board rfl
      by_cases goesOnToo : answer = through
      · simp only [id, if_pos goesOnToo, bind_assoc, pure_bind]
        refine (Agree.refl _).bind ?_
        rintro last final _ board rfl
        exact .ok rfl
      · simp only [id, if_neg goesOnToo, pure_bind]
        exact .ok rfl
    · simp only [id, if_neg goesOn, pure_bind]
      exact .ok rfl

end Laws

/-! ## Trees as machines -/

section Trees

variable [Blackboard β]

/-- A tree for what it does. -/
def ofTree (tree : Tree ι μ β) : Machine (Trace μ) β where
  start := .blank tree
  setup := tree.setup
  tick bound := tree.tick bound

/-- Trees in order for what they do as long as the answer is `through`. -/
def chain (through : Status) (trees : List (Tree ι μ β)) :
    Machine (List (Trace μ)) β where
  start := Trace.blankList trees
  setup := Tree.setupList trees
  tick bound := Ticker.inOrder through (Tree.tickers bound trees)

theorem chain_nil :
    (chain through ([] : List (Tree ι μ β))).Like id (.idle through) :=
  ⟨fun _ _ => True, trivial, fun _ _ => ⟨trivial, rfl⟩,
    fun _ _ _ _ _ => .ok trivial⟩

theorem chain_cons {tree : Tree ι μ β} {trees : List (Tree ι μ β)} :
    (chain through (tree :: trees)).Like id
      ((ofTree tree).andThen through (chain through trees)) := by
  refine ⟨fun states pair => states = pair.1 :: pair.2, rfl, ?_, ?_⟩
  · rintro _ ⟨trace, traces⟩ board rfl
    exact ⟨rfl, rfl⟩
  · rintro bound _ ⟨trace, traces⟩ board rfl
    refine (Agree.refl _).bind ?_
    rintro status first _ board rfl
    by_cases goesOn : status = through
    · simp only [id, if_pos goesOn]
      refine (Agree.refl _).bind ?_
      rintro answer rest _ board rfl
      exact .ok rfl
    · simp only [id, if_neg goesOn]
      exact .ok rfl

/-- Each tree of a chain can be exchanged for one that is like it. -/
theorem Like.chained {trees others : List (Tree ι μ β)}
    (turns : Function.Injective turn)
    (each : List.Forall₂
      (fun tree other => (ofTree tree).Like turn (ofTree other)) trees others) :
    (chain through trees).Like turn (chain (turn through) others) := by
  induction each with
  | nil => exact (chain_nil.trans .idle).trans chain_nil.back
  | cons first rest ih =>
    exact (chain_cons.trans (.andThen turns first ih)).trans chain_cons.back

theorem chain_append {front back : List (Tree ι μ β)} :
    (chain through (front ++ back)).Like id
      ((chain through front).andThen through (chain through back)) := by
  induction front with
  | nil =>
    have unit : ((chain through ([] : List (Tree ι μ β))).andThen through
        (chain through back)).Like id (chain through back) :=
      chain_nil.andThen_left.trans idle_andThen
    exact unit.back
  | cons tree front ih =>
    have whole : (chain through (tree :: (front ++ back))).Like id
        ((ofTree tree).andThen through
          ((chain through front).andThen through (chain through back))) :=
      chain_cons.trans ih.andThen_right
    have parts : ((chain through (tree :: front)).andThen through
        (chain through back)).Like id
        ((ofTree tree).andThen through
          ((chain through front).andThen through (chain through back))) :=
      chain_cons.andThen_left.trans andThen_assoc
    exact whole.trans parts.back

section Nodes

variable {number : ι} {name : String} {kind : Kind μ β}

/-- A composite is the chain of its children. -/
theorem ofTree_composite {children : List (Tree ι μ β)}
    (chains : kind.Chains through) :
    (ofTree (.node number name kind children)).Like id
      (chain through children) := by
  refine ⟨fun trace traces => trace.children = traces, ?_, ?_, ?_⟩
  · simp only [ofTree, Trace.blank]
    rfl
  · rintro ⟨status, count, memory, traces⟩ _ board rfl
    cases chains <;> exact ⟨rfl, rfl⟩
  · rintro bound ⟨status, count, memory, traces⟩ _ board rfl
    cases chains <;> exact .wrapped id (fun _ => rfl) fun _ => rfl

theorem ofTree_invert {child : Tree ι μ β} :
    (ofTree (.node number name (.decorator .invert) [child])).Like .invert
      (ofTree child) := by
  refine ⟨fun trace below => trace.children = [below], ?_, ?_, ?_⟩
  · simp only [ofTree, Trace.blank]
    rfl
  · rintro ⟨status, count, memory, _⟩ below board rfl
    exact ⟨rfl, rfl⟩
  · rintro bound ⟨status, count, memory, _⟩ below board rfl
    have turned : (Tree.node number name (.decorator .invert) [child]).tick bound
        (.node status count memory [below]) board =
        (child.tick bound below board >>= fun step =>
          .ok ⟨step.status.invert,
            .node (some step.status.invert) count memory [step.state],
            step.board⟩) := by
      simp only [Tree.tick, Tree.tickers, Kind.ticker, Decorator.ticker,
        Decorator.resets, Ticker.mapStatus, bind_assoc, pure_bind]
      rfl
    simp only [ofTree, turned]
    exact .wrapped Status.invert Status.invert_invert fun _ => rfl

end Nodes

/-- A composite turned around is the opposite one of what is turned around. -/
theorem Like.invert_composite {number below : ι} {name inner outer : String}
    {kind opposite : Kind μ β} {trees others : List (Tree ι μ β)}
    (chains : kind.Chains through)
    (opposes : opposite.Chains through.invert)
    (each : List.Forall₂ (fun tree other =>
      (ofTree tree).Like Status.invert (ofTree other)) trees others) :
    (ofTree (.node number outer (.decorator .invert)
      [.node below inner kind trees])).Like id
      (ofTree (.node number name opposite others)) := by
  have invertInjective : Function.Injective Status.invert :=
    Function.LeftInverse.injective Status.invert_invert
  -- the turn of the decorator undoes that of the children
  have twice : (ofTree (.node number outer (.decorator .invert)
      [.node below inner kind trees])).Like
      ((Status.invert ∘ id) ∘ Status.invert) (chain through.invert others) :=
    ofTree_invert.trans
      ((ofTree_composite chains).trans (.chained invertInjective each))
  have once : (Status.invert ∘ id) ∘ Status.invert = id :=
    funext Status.invert_invert
  rw [once] at twice
  exact twice.trans (ofTree_composite opposes).back

/-- A composite within one of the same kind can be dissolved. -/
theorem Like.nested_composite {number below : ι} {name inner outer : String}
    {kind : Kind μ β} {front middle back : List (Tree ι μ β)}
    (chains : kind.Chains through) :
    (ofTree (.node number outer kind
      (front ++ .node below inner kind middle :: back))).Like id
      (ofTree (.node number name kind (front ++ (middle ++ back)))) := by
  have dissolved : (chain through (.node below inner kind middle :: back)).Like id
      (chain through (middle ++ back)) :=
    (chain_cons.trans (ofTree_composite chains).andThen_left).trans
      chain_append.back
  have whole : (chain through
      (front ++ .node below inner kind middle :: back)).Like id
      (chain through (front ++ (middle ++ back))) :=
    (chain_append.trans dissolved.andThen_right).trans chain_append.back
  exact ((ofTree_composite chains).trans whole).trans
    (ofTree_composite chains).back

end Trees

end Machine

/-! ## Watching a tree -/

namespace BehaviorTree

variable [Blackboard β]

/-- The answers of several ticks, each with the blackboard after it; the blackboard
may be changed before each tick, and each has a bound of its own. -/
def watch (tree : BehaviorTree μ β) :
    List ((β → β) × Nat) → Except TickError (List (Status × β))
  | [] => .ok []
  | (change, bound) :: script => do
    let (status, next) ← (tree.modify change).tick bound
    let rest ← next.watch script
    return (status, next.board) :: rest

/-- Two trees at the same point of lives that cannot be told apart. -/
inductive Abreast (rel : Trace μ → Trace μ → Prop) (node partner : Node μ β) :
    BehaviorTree μ β → BehaviorTree μ β → Prop where
  | beside {trace partnerTrace : Trace μ} {board : β} {isSetup : Bool}
      {status : Option Status} {ticks : UInt64}
      (related : rel trace partnerTrace) :
    Abreast rel node partner ⟨⟨node, trace⟩, board, isSetup, status, ticks⟩
      ⟨⟨partner, partnerTrace⟩, board, isSetup, status, ticks⟩

namespace Abreast

variable {rel : Trace μ → Trace μ → Prop} {node partner : Node μ β}
  {tree other : BehaviorTree μ β}

omit [Blackboard β] in
theorem modify (abreast : Abreast rel node partner tree other)
    (change : β → β) :
    Abreast rel node partner (tree.modify change) (other.modify change) := by
  cases abreast with
  | beside related => exact .beside related

theorem setup
    (imitates : (Machine.ofTree node).Imitates id rel (.ofTree partner))
    (abreast : Abreast rel node partner tree other) :
    Abreast rel node partner tree.setup other.setup := by
  cases abreast with
  | @beside trace partnerTrace board isSetup status ticks related =>
    cases isSetup with
    | true => exact .beside related
    | false =>
      have both := imitates.setup board related
      have sameBoard : (partner.setup partnerTrace board).2 =
          (node.setup trace board).2 := both.2
      simp only [BehaviorTree.setup, LiveNode.setup, sameBoard]
      exact .beside both.1

/-- Ticking both gives the same error, or the same answer and trees abreast. -/
theorem tick
    (imitates : (Machine.ofTree node).Imitates id rel (.ofTree partner))
    (abreast : Abreast rel node partner tree other) (bound : Nat) :
    (∃ error, tree.tick bound = .error error ∧ other.tick bound = .error error) ∨
    ∃ status next otherNext, tree.tick bound = .ok (status, next) ∧
      other.tick bound = .ok (status, otherNext) ∧
      Abreast rel node partner next otherNext := by
  have ready := abreast.setup imitates
  rw [BehaviorTree.tick, BehaviorTree.tick]
  generalize tree.setup = tree, other.setup = other at ready
  cases ready with
  | @beside trace partnerTrace board isSetup status ticks related =>
    have agree : Agree id rel (node.tick bound trace board)
        (partner.tick bound partnerTrace board) :=
      imitates.tick bound board related
    simp only [LiveNode.tick]
    generalize node.tick bound trace board = ticked,
      partner.tick bound partnerTrace board = tickedToo at agree
    cases agree with
    | ok relatedAfter => exact .inr ⟨_, _, _, rfl, rfl, .beside relatedAfter⟩
    | error => exact .inl ⟨_, rfl, rfl⟩

theorem watch
    (imitates : (Machine.ofTree node).Imitates id rel (.ofTree partner))
    (abreast : Abreast rel node partner tree other)
    (script : List ((β → β) × Nat)) :
    tree.watch script = other.watch script := by
  induction script generalizing tree other with
  | nil => rfl
  | cons entry script ih =>
    rcases entry with ⟨change, bound⟩
    rw [BehaviorTree.watch, BehaviorTree.watch]
    rcases (abreast.modify change).tick imitates bound with
      ⟨error, fails, failsToo⟩ | ⟨status, next, otherNext, ends, endsToo, after⟩
    · rw [fails, failsToo]
    · rw [ends, endsToo]
      cases after with
      | beside related =>
        simp only [bind, Except.bind, ih (.beside related)]

end Abreast

end BehaviorTree

/-! ## Specifications -/

namespace Tree

/-- What is wrong with the first node that breaks its rule. -/
def firstBreach? (trees : List (Tree ι μ β)) : Option BuildError :=
  (nodesOfList trees).findSome? breach?

theorem firstBreach?_append (front back : List (Tree ι μ β)) :
    firstBreach? (front ++ back) = (firstBreach? front).or (firstBreach? back) := by
  simp [firstBreach?]

theorem firstBreach?_cons (tree : Tree ι μ β) (trees : List (Tree ι μ β)) :
    firstBreach? (tree :: trees) = (firstBreach? [tree]).or (firstBreach? trees) :=
  firstBreach?_append [tree] trees

/-- A node that obeys its rule leaves it to those below it. -/
theorem firstBreach?_node {number : ι} {name : String} {kind : Kind μ β}
    {children : List (Tree ι μ β)}
    (sound : kind.arityError? name children.length = none) :
    firstBreach? [node number name kind children] = firstBreach? children := by
  have obeys : breach? (node number name kind children) = none := sound
  simp [firstBreach?, nodes, obeys]

mutual

theorem tick_erase [Blackboard β] (bound : Nat) :
    (tree : Tree ι μ β) → tree.erase.tick bound = tree.tick bound
  | .node number name kind children => by
    rw [erase, tick, tick, tickers_eraseList bound children]

theorem tickers_eraseList [Blackboard β] (bound : Nat) :
    (trees : List (Tree ι μ β)) →
      tickers bound (eraseList trees) = tickers bound trees
  | [] => rfl
  | tree :: trees => by
    rw [eraseList, tickers, tickers, tick_erase bound tree,
      tickers_eraseList bound trees]

end

mutual

theorem setup_erase :
    (tree : Tree ι μ β) → tree.erase.setup = tree.setup
  | .node number name kind children => by
    funext trace board
    rcases trace with ⟨status, count, memory, traces⟩
    rw [erase, setup, setup, setupList_eraseList children]

theorem setupList_eraseList :
    (trees : List (Tree ι μ β)) → setupList (eraseList trees) = setupList trees
  | [] => rfl
  | tree :: trees => by
    funext traces board
    cases traces with
    | nil => rfl
    | cons trace traces =>
      rw [eraseList, setupList, setupList, setup_erase tree,
        setupList_eraseList trees]

end

end Tree

namespace Trace

mutual

theorem blank_erase : (tree : Tree ι μ β) → blank tree.erase = blank tree
  | .node number name kind children => by
    rw [Tree.erase, blank, blank, blankList_eraseList children]

theorem blankList_eraseList :
    (trees : List (Tree ι μ β)) →
      blankList (Tree.eraseList trees) = blankList trees
  | [] => rfl
  | tree :: trees => by
    rw [Tree.eraseList, blankList, blankList, blank_erase tree,
      blankList_eraseList trees]

end

end Trace

variable [Blackboard β]

/-- Identities have no part in what a tree does. -/
theorem Machine.ofTree_erase (tree : Tree ι μ β) :
    ofTree tree.erase = ofTree tree := by
  simp only [ofTree, Trace.blank_erase, Tree.setup_erase, Tree.tick_erase]

namespace Spec

/-- Neither can be told from the other: building them ends in the same error, or
their trees give the same answers and do the same to the blackboard for ever. -/
def Interchangeable (spec other : Spec μ β) : Prop :=
  ∀ builder partner : Builder,
    match (builder.build spec).1, (partner.build other).1 with
    | .ok node, .ok twin => ∀ board script,
      (BehaviorTree.ofNode node board).watch script =
        (BehaviorTree.ofNode twin board).watch script
    | .error error, .error same => same = error
    | _, _ => False

variable {spec other : Spec μ β}

omit [Blackboard β] in
/-- A build fails with what is wrong with the first node that breaks its rule. -/
theorem build_or_breach (builder : Builder) (spec : Spec μ β) :
    (∃ node, (builder.build spec).1 = .ok node ∧ node.erase = spec ∧
      Tree.firstBreach? [spec] = none) ∨
    ∃ error, (builder.build spec).1 = .error error ∧
      Tree.firstBreach? [spec] = some error := by
  have ends := builder.build_ends spec
  have nodes : Tree.firstBreach? [spec] = spec.nodes.findSome? Tree.breach? := by
    simp [Tree.firstBreach?]
  rcases went : builder.build spec with ⟨error | node, last⟩
  · rw [went] at ends
    rcases ends with ⟨before, part, rest, parts, sound, found, _⟩
    refine .inr ⟨_, rfl, ?_⟩
    rw [nodes, parts, List.findSome?_append,
      List.findSome?_eq_none_iff.mpr sound, Option.none_or,
      List.findSome?_cons, found]
  · rw [went] at ends
    exact .inl ⟨_, rfl, ends.1,
      nodes.trans (List.findSome?_eq_none_iff.mpr ends.2.sound)⟩

theorem Interchangeable.of_like
    (like : (Machine.ofTree spec).Like id (.ofTree other))
    (breaches : Tree.firstBreach? [spec] = Tree.firstBreach? [other]) :
    Interchangeable spec other := by
  intro builder partner
  rcases build_or_breach builder spec with
    ⟨node, built, erased, sound⟩ | ⟨error, failed, breach⟩
  · rcases build_or_breach partner other with
      ⟨twin, builtToo, erasedToo, _⟩ | ⟨error, _, breach⟩
    · rw [built, builtToo]
      intro board script
      rw [← erased, ← erasedToo, Machine.ofTree_erase,
        Machine.ofTree_erase] at like
      rcases like with ⟨rel, imitates⟩
      exact BehaviorTree.Abreast.watch imitates (.beside imitates.start) script
    · rw [← breaches, sound] at breach
      cases breach
  · rcases build_or_breach partner other with
      ⟨twin, _, _, sound⟩ | ⟨same, failedToo, breachToo⟩
    · rw [breaches, sound] at breach
      cases breach
    · rw [failed, failedToo]
      rw [breaches, breachToo] at breach
      exact Option.some.inj breach

theorem Interchangeable.invert_composite {name inner outer : String}
    {kind opposite : Kind μ β} {through : Status}
    (chains : kind.Chains through)
    (opposes : opposite.Chains through.invert)
    (named : List (String × Spec μ β)) :
    Interchangeable
      (invert outer (.node () inner kind (named.map Prod.snd)))
      (.node () name opposite (named.map fun child => invert child.1 child.2)) := by
  refine .of_like (.invert_composite chains opposes ?_) ?_
  · rw [List.forall₂_map_left_iff, List.forall₂_map_right_iff, List.forall₂_same]
    intro child _
    exact Machine.ofTree_invert.symm Status.invert_invert
  · have each : Tree.firstBreach?
        (named.map fun child => invert child.1 child.2) =
        Tree.firstBreach? (named.map Prod.snd) := by
      induction named with
      | nil => rfl
      | cons child named ih =>
        rw [List.map_cons, List.map_cons, Tree.firstBreach?_cons,
          Tree.firstBreach?_cons child.2, invert, decorate,
          Tree.firstBreach?_node rfl, ih]
    rw [invert, decorate, Tree.firstBreach?_node rfl,
      Tree.firstBreach?_node chains.arityError_eq_none,
      Tree.firstBreach?_node opposes.arityError_eq_none, each]

theorem Interchangeable.nested_composite {name inner outer : String}
    {kind : Kind μ β} {through : Status}
    (chains : kind.Chains through)
    (front middle back : List (Spec μ β)) :
    Interchangeable
      (.node () outer kind (front ++ .node () inner kind middle :: back))
      (.node () name kind (front ++ middle ++ back)) := by
  rw [List.append_assoc]
  refine .of_like (.nested_composite chains) ?_
  rw [Tree.firstBreach?_node chains.arityError_eq_none,
    Tree.firstBreach?_node chains.arityError_eq_none,
    Tree.firstBreach?_append, Tree.firstBreach?_append front,
    Tree.firstBreach?_cons, Tree.firstBreach?_node chains.arityError_eq_none,
    Tree.firstBreach?_append middle]

end Spec

/--
A sequence turned around is as good as a fallback of its children turned around, and
a fallback turned around as good as a sequence; a sequence within a sequence can be
dissolved, and a fallback within a fallback.  Whatever the children are, building
both ends in the same error, or both give the same answers tick by tick and leave
the same blackboard after each tick.
-/
theorem composites_are_interchangeable
    (outer inner name : String)
    (named : List (String × Spec μ β))
    (front middle back : List (Spec μ β)) :
    Spec.Interchangeable
      (.invert outer (.sequence inner (named.map Prod.snd)))
      (.fallback name (named.map fun child => .invert child.1 child.2)) ∧
    Spec.Interchangeable
      (.invert outer (.fallback inner (named.map Prod.snd)))
      (.sequence name (named.map fun child => .invert child.1 child.2)) ∧
    Spec.Interchangeable
      (.sequence outer (front ++ .sequence inner middle :: back))
      (.sequence name (front ++ middle ++ back)) ∧
    Spec.Interchangeable
      (.fallback outer (front ++ .fallback inner middle :: back))
      (.fallback name (front ++ middle ++ back)) :=
  ⟨.invert_composite .sequence .fallback named,
    .invert_composite .fallback .sequence named,
    .nested_composite .sequence front middle back,
    .nested_composite .fallback front middle back⟩

end Disclosure
