import Disclosure.Tree.Live

/-!
# The workbench

A small blackboard for trying trees out: switches that leaves test and set, and
a log of what was done in which order.  Leaves on it remember how often they
were ticked.
-/

namespace Disclosure

/-- Switches, a log and a random source. -/
structure Workbench where
  stream : RandomStream
  /-- Settles decisions; without an arbiter their weights are sampled. -/
  arbiter : Option Arbiter
  log : Array String
  /-- The switches that are on, sorted. -/
  flags : List String

namespace Workbench

/-- A workbench with nothing done and all switches off. -/
def new (stream : RandomStream) (policy : Option Policy) : Workbench where
  stream := stream
  arbiter := policy.map .new
  log := #[]
  flags := []

instance : Blackboard Workbench where
  random board := board.stream
  setRandom stream board := { board with stream }
  decide decision board :=
    match board.arbiter with
    | none =>
      let (outcome, stream) := decision.weight.sample board.stream
      (outcome, { board with stream })
    | some arbiter =>
      let (outcome, arbiter, stream) := arbiter.settle decision board.stream
      (outcome, { board with stream, arbiter })

/-- Put a text in its place among sorted ones, unless it is there. -/
def insertSorted (item : String) : List String → List String
  | [] => [item]
  | other :: items =>
    if item < other then item :: other :: items
    else if item = other then other :: items
    else other :: insertSorted item items

/-- Whether a switch is on. -/
def isOn (board : Workbench) (flag : String) : Bool := board.flags.contains flag

/-- Turn a switch on or off. -/
def setFlag (flag : String) (value : Bool) (board : Workbench) : Workbench :=
  if value then { board with flags := insertSorted flag board.flags }
  else { board with flags := board.flags.erase flag }

def write (entry : String) (board : Workbench) : Workbench :=
  { board with log := board.log.push entry }

/-- Logs its name with each tick and answers the given statuses in turn. -/
def player (name : String) (answers : Array Status) : Leaf Nat Workbench where
  kind := .action
  memory := 0
  setup position board := (position, board.write ("setup:" ++ name))
  act position board :=
    (answers[position % answers.size]?.getD .running, position + 1,
      board.write name)

/-- Succeeds while the switch is on. -/
def checker (flag : String) : Leaf Nat Workbench :=
  .ofAct .condition fun board => (.ofBool (board.isOn flag), board)

/-- Turns a switch; fails if it already was so. -/
def setter (flag : String) (value : Bool) : Leaf Nat Workbench :=
  .ofAct .action fun board =>
    (.ofBool (board.isOn flag != value), board.setFlag flag value)

/-- Has a decision settled. -/
def decider (name : String) (weight : Weight) : Leaf Nat Workbench :=
  .ofAct .decision (Blackboard.decide ⟨name, weight⟩)

/-- Always succeeds. -/
def succeeder : Leaf Nat Workbench :=
  .ofAct .action fun board => (.success, board)

end Workbench

end Disclosure
