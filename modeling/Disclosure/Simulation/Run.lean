import Disclosure.Actor.World
import Disclosure.Simulation.Concurrent
import Disclosure.Simulation.LockStep

/-!
# Runs

A run is a case in lock step, a case side by side or the bot, as the
configuration says.  The bot is one actor that plays all the roles at once and
hears from nobody but the outside world.
-/

namespace Disclosure

/-! ## The bot -/

/-- An actor on its own and the stream that the outside world draws from. -/
structure Bot where
  actor : Actor
  world : RandomStream
  delivered : Nat
  rounds : Nat

namespace Bot

def name : String := "bot"

/-- The roles of the actor. -/
def roles : Roles :=
  .ofList [.finder, .reporter, .vendor, .deployer, .coordinator]

/-- Begin with two streams: that of the actor and that of the outside world. -/
def new (config : Config) (entropy : Nat → Chance) : Except BuildError Bot := do
  let actor ← Actor.new name roles ((entropy 0).seeded (config.seedFor 0))
  return ⟨actor, ((entropy 1).seeded (config.seedFor 1)).stream, 0, 0⟩

/-- Perhaps something from outside, then a tick. -/
def step (bot : Bot) : Bot :=
  let (message, world) := World.drawMessage bot.actor.state.report bot.world
  let (actor, delivered) :=
    match message with
    | some message => (bot.actor.deliver message, bot.delivered + 1)
    | none => (bot.actor, bot.delivered)
  ⟨actor.tick.2, world, delivered, bot.rounds + 1⟩

/-- Up to so many steps, until the report is closed. -/
def steps : Nat → Bot → Bot
  | 0, bot => bot
  | count + 1, bot => if bot.actor.isClosed then bot else steps count bot.step

/-- The report of the steps so far. -/
def report (bot : Bot) : Report where
  mode := .bot
  rounds := bot.rounds
  delivered := bot.delivered
  undelivered := 0
  dropped := 0
  actors := [bot.actor.summary]

def run (config : Config) (entropy : Nat → Chance) :
    Except BuildError Report := do
  return ((← new config entropy).steps config.maxTicks.toNat).report

end Bot

/-! ## Runs of any kind -/

namespace Config

/-- Run the simulation; `entropy` is what the operating system gives to the
actors. -/
def run (config : Config) (entropy : Nat → Chance) :
    Except BuildError Report :=
  match config.mode with
  | .bot => Bot.run config entropy
  | .lockStep => LockStep.run config entropy
  | .concurrent => Concurrent.run config entropy

/-- A report in the format that is asked for. -/
def render (config : Config) (report : Report) : String :=
  match config.output with
  | .table => report.toTable
  | .json => report.toJson.pretty ++ "\n"

end Config

end Disclosure
