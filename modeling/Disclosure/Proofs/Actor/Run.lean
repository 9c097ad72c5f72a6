import Disclosure.Actor.Actor
import Disclosure.Proofs.Protocol.Proper
import Disclosure.Proofs.Protocol.Root

/-!
# Runs of an actor

An actor can always be built, and its ticks never fail: each of them takes the
state by deeds to the next one.  So an invariant of deliveries and deeds is an
invariant of every run.
-/

namespace Disclosure

/-- The state when the clock has gone on. -/
def ActorState.clocked (state : ActorState) : ActorState :=
  { state with tick := state.tick + 1 }

/-- What deliveries and ticks preserve. -/
structure ActorState.Invariant (property : ActorState → Prop) : Prop where
  deliver : ∀ state message, property state → property (state.deliver message)
  /-- The clock goes on before each tick. -/
  clock : ∀ state, property state → property state.clocked
  /-- The record of answers may be cleared after each tick. -/
  clearRecord : ∀ state, property state →
    property { state with arbiter := state.arbiter.clearRecord }
  deed : ∀ before after, property before → ActorState.Deed before after →
    property after

namespace Actor

/-- The tree of the actor is a build of the protocol. -/
def Live (actor : Actor) : Prop :=
  actor.tree.root.Hosts Behavior.protocolRoot

/-- An actor at work whose state has a property. -/
def Has (property : ActorState → Prop) (actor : Actor) : Prop :=
  actor.Live ∧ property actor.state

/-! ## Beginning -/

theorem exists_protocolTree :
    ∃ node, protocolTree = .ok node ∧ node.erase = Behavior.protocolRoot :=
  Spec.build_of_proper Behavior.proper_protocolRoot

theorem exists_new (name : String) (roles : Roles) (chance : Chance) :
    ∃ actor, new name roles chance = .ok actor ∧ actor.Live ∧
      actor.state = (ActorState.new name roles chance).recordStates := by
  rcases exists_protocolTree with ⟨node, built, erased⟩
  refine ⟨⟨.ofNode node (ActorState.new name roles chance).recordStates⟩,
    ?_, LiveNode.hosts_ofNode erased, rfl⟩
  rw [new, built]
  rfl

/-- A new actor with abilities of its own, whose decisions follow a policy. -/
def start (name : String) (roles : Roles) (abilities : Capabilities)
    (chance : Chance) (policy : Policy) : Except BuildError Actor := do
  let actor ← new name roles chance
  return actor.modify fun state =>
    { state with abilities, arbiter := .new policy }

/-- The state in which an actor starts. -/
def startState (name : String) (roles : Roles) (abilities : Capabilities)
    (chance : Chance) (policy : Policy) : ActorState :=
  { (ActorState.new name roles chance).recordStates with
    abilities, arbiter := .new policy }

theorem exists_start (name : String) (roles : Roles)
    (abilities : Capabilities) (chance : Chance) (policy : Policy) :
    ∃ actor, start name roles abilities chance policy = .ok actor ∧
      actor.Live ∧
      actor.state = startState name roles abilities chance policy := by
  rcases exists_new name roles chance with ⟨actor, made, live, begins⟩
  refine ⟨actor.modify fun state =>
    { state with abilities, arbiter := .new policy }, ?_, live, ?_⟩
  · rw [start, made]
    rfl
  · rw [startState, ← begins]
    rfl

/-! ## Ticking -/

/-- A tick never fails, and what the protocol ensures holds of its answer and of the
state after it. -/
theorem Live.answer_of_ensures {actor : Actor}
    {post : Status → ActorState → Prop}
    (live : actor.Live)
    (ensures : Behavior.protocolRoot.Ensures (actor.state.inbox.length + 2)
      actor.state.clocked post) :
    actor.tick.2.Live ∧ post actor.tick.1 actor.tick.2.state := by
  have clockedLive : (actor.modify ActorState.clocked).tree.root.Hosts
      Behavior.protocolRoot := live
  rcases ensures with ⟨status, after, ran, holds⟩
  obtain ⟨tree, ticked, hosts, rfl⟩ := BehaviorTree.tick_of_hosts clockedLive
    Behavior.proper_protocolRoot ran
  have result : actor.tick = (status, ⟨tree⟩) := by
    rw [Actor.tick]
    split
    next answered =>
      cases ticked.symm.trans answered
      rfl
    next failed => cases ticked.symm.trans failed
  rw [result]
  exact ⟨hosts, holds⟩

theorem Live.tick_of_ensures {actor : Actor}
    {post : Status → ActorState → Prop}
    (live : actor.Live)
    (ensures : Behavior.protocolRoot.Ensures (actor.state.inbox.length + 2)
      actor.state.clocked post) :
    actor.tick.2.Live ∧ ∃ status, post status actor.tick.2.state := by
  rcases live.answer_of_ensures ensures with ⟨stillLive, holds⟩
  exact ⟨stillLive, _, holds⟩

/-- The bound of a tick is larger than the inbox. -/
theorem inbox_lt_bound (actor : Actor) :
    actor.state.clocked.inbox.length < actor.state.inbox.length + 2 :=
  Nat.lt_add_of_pos_right (by omega)

/-- A tick takes the state to the next one by deeds. -/
theorem Live.tick {actor : Actor} (live : actor.Live) :
    actor.tick.2.Live ∧
      ActorState.Deeds actor.state.clocked actor.tick.2.state := by
  obtain ⟨stillLive, _, deeds⟩ := live.tick_of_ensures
    (Behavior.ensures_protocolRoot actor.inbox_lt_bound)
  exact ⟨stillLive, deeds⟩

theorem Has.tick {property : ActorState → Prop} {actor : Actor}
    (invariant : ActorState.Invariant property)
    (has : actor.Has property) :
    actor.tick.2.Has property := by
  rcases has.1.tick with ⟨stillLive, deeds⟩
  exact ⟨stillLive,
    deeds.preserves invariant.deed (invariant.clock _ has.2)⟩

theorem Has.deliver {property : ActorState → Prop} {actor : Actor}
    (invariant : ActorState.Invariant property)
    (has : actor.Has property)
    (message : Message) :
    (actor.deliver message).Has property :=
  ⟨has.1, invariant.deliver _ message has.2⟩

/-! ## Runs -/

/-- What can happen to an actor from outside. -/
inductive Event where
  | deliver (message : Message)
  | tick

/-- The actor after an event. -/
def react (actor : Actor) : Event → Actor
  | .deliver message => actor.deliver message
  | .tick => actor.tick.2

/-- The actor after several events, one after the other. -/
def play (events : List Event) (actor : Actor) : Actor :=
  events.foldl react actor

/-- Runs can be cut in two anywhere. -/
theorem play_append (events more : List Event) (actor : Actor) :
    actor.play (events ++ more) = (actor.play events).play more :=
  List.foldl_append

/-- What deliveries and deeds preserve, every run preserves. -/
theorem Has.play {property : ActorState → Prop} {actor : Actor}
    (invariant : ActorState.Invariant property)
    (has : actor.Has property)
    (events : List Event) :
    (actor.play events).Has property := by
  induction events generalizing actor with
  | nil => exact has
  | cons event events ih =>
    have next : (actor.react event).Has property := by
      cases event with
      | deliver message => exact has.deliver invariant message
      | tick => exact has.tick invariant
    exact ih next

end Actor

end Disclosure
