import Disclosure.Simulation.Report
import Disclosure.Simulation.Router

/-!
# Cases side by side

Every actor is a task of its own: in each of its turns it takes its mail out of
the router, ticks, and hands what it sends to the router at once.  Tasks take
turns in the order in which they were started.  A task ends when its report is
closed or when its ticks are used up, and then its name leaves the router.
-/

namespace Disclosure

/-- An actor that runs by itself, and the ticks that are left to it. -/
structure Task where
  name : String
  actor : Actor
  ticksLeft : Nat

/-- Tasks at work, the router between them, and those that are done. -/
structure Concurrent where
  router : Router
  tasks : List Task
  summaries : List Summary
  /-- The seed of the first actor, if the run is seeded. -/
  seed : Option UInt64
  /-- What the operating system gives to the actors. -/
  entropy : Nat → Chance
  started : Nat
  maxTicks : Nat

namespace Concurrent

def empty (seed : Option UInt64) (entropy : Nat → Chance) (maxTicks : Nat) :
    Concurrent :=
  ⟨.empty, [], [], seed, entropy, 0, maxTicks⟩

/-- Start a task, unless its name is or was taken. -/
def start (concurrent : Concurrent) (name : String) (roles : Roles)
    (prepare : Actor → Actor) : Except BuildError Concurrent := do
  let (fresh, router) := concurrent.router.register name true
  if fresh then
    let chance :=
      Chance.ofNumber concurrent.seed concurrent.entropy concurrent.started
    let actor ← Actor.new name roles chance
    let task := ⟨name, prepare actor, concurrent.maxTicks⟩
    return { concurrent with
      router := router
      tasks := concurrent.tasks ++ [task]
      started := concurrent.started + 1 }
  else return concurrent

/-- Start tasks for newcomers. -/
def enroll (concurrent : Concurrent) :
    List Participant → Except BuildError Concurrent
  | [] => .ok concurrent
  | newcomer :: newcomers => do
    let concurrent ←
      concurrent.start newcomer.name newcomer.roles (Actor.adopt newcomer)
    concurrent.enroll newcomers

/-- What comes of the turn of a task. -/
structure Turn where
  router : Router
  /-- The task, if it goes on. -/
  task : Option Task
  /-- Its summary, if it is done. -/
  summary : Option Summary
  introduced : List Participant

def finish (router : Router) (actor : Actor) (introduced : List Participant) :
    Turn :=
  ⟨router.retire actor.name, none, some actor.summary, introduced⟩

def turn (router : Router) (task : Task) : Turn :=
  match task.ticksLeft with
  | 0 => finish router task.actor []
  | ticksLeft + 1 =>
    let (mail, router) := router.drain task.name
    let before := task.actor.state
    let ready := mail.foldl (fun actor message => actor.deliver message) task.actor
    let actor := ready.tick.2.modify fun state =>
      { state with arbiter := state.arbiter.clearRecord }
    let sent := actor.state.sent.toList.drop before.sent.size
    let introduced :=
      actor.state.introduced.toList.drop before.introduced.size
    let router := sent.foldl Router.route router
    if actor.isClosed then finish router actor introduced
    else ⟨router, some { task with actor, ticksLeft }, none, introduced⟩

/-- A turn for each of some tasks; the newcomers wait for the end. -/
def turns (concurrent : Concurrent) (introduced : List Participant) :
    List Task → Concurrent × List Participant
  | [] => (concurrent, introduced)
  | task :: tasks =>
    let turn := turn concurrent.router task
    turns
      { concurrent with
        router := turn.router
        tasks := concurrent.tasks ++ turn.task.toList
        summaries := concurrent.summaries ++ turn.summary.toList }
      (introduced ++ turn.introduced) tasks

/-- Turns for everybody, until all tasks are done or a bound is reached. -/
def runTasks : Nat → Concurrent → Except BuildError Concurrent
  | 0, concurrent => .ok concurrent
  | bound + 1, concurrent => do
    if concurrent.tasks.isEmpty then return concurrent
    else
      let (concurrent, introduced) :=
        turns { concurrent with tasks := [] } [] concurrent.tasks
      runTasks bound (← concurrent.enroll introduced)

/--
More turns than there can be.  An actor finds at most three candidates in a tick
and numbers them, so that there are at most nine names for each tick that it may
take; a name has one task at most, which has one turn more than ticks.
-/
def turnBound (participants maxTicks : Nat) : Nat :=
  (participants + 9 * maxTicks + 1) * (maxTicks + 2)

/-- The report once all tasks are done, the actors sorted by name. -/
def report (concurrent : Concurrent) : Report where
  mode := .concurrent
  rounds := (concurrent.summaries.map fun actor => actor.ticks.toNat).foldl max 0
  delivered := concurrent.router.delivered
  undelivered := concurrent.router.undelivered
  dropped := concurrent.router.dropped
  actors := concurrent.summaries.mergeSort fun left right =>
    !decide (right.name < left.name)

def run (config : Config) (entropy : Nat → Chance) :
    Except BuildError Report := do
  let maxTicks := config.maxTicks.toNat
  let concurrent ← config.participants.foldlM
    (fun concurrent enrollment =>
      start concurrent enrollment.name enrollment.roles id)
    (empty config.seed entropy maxTicks)
  let bound := turnBound config.participants.length maxTicks
  return (← runTasks bound concurrent).report

end Concurrent

end Disclosure
