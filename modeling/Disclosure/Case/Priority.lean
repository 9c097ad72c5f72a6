import Disclosure.Json.Decode

/-!
# Priorities

How urgently a participant wants to work on a report, from not at all upwards.
-/

namespace Disclosure

/-- The urgency of a report. -/
inductive Priority where
  | defer
  | scheduled
  | outOfCycle
  | immediate
  deriving DecidableEq, Repr, Inhabited

namespace Priority

/-- Every priority once, the least urgent first. -/
def all : List Priority := [defer, scheduled, outOfCycle, immediate]

theorem mem_all (priority : Priority) : priority ∈ all := by
  cases priority <;> decide

/-- The priorities with which a report is accepted. -/
def active : List Priority := [scheduled, outOfCycle, immediate]

/-- The place in the order of urgency. -/
def rank : Priority → Nat
  | defer => 0
  | scheduled => 1
  | outOfCycle => 2
  | immediate => 3

/-- The name in reports. -/
def name : Priority → String
  | defer => "DEFER"
  | scheduled => "SCHEDULED"
  | outOfCycle => "OUT_OF_CYCLE"
  | immediate => "IMMEDIATE"

/-- The severity that the priority corresponds to. -/
def severity : Priority → String
  | defer => "LOW"
  | scheduled => "MEDIUM"
  | outOfCycle => "HIGH"
  | immediate => "CRITICAL"

/-- The priorities that are less urgent. -/
def below (priority : Priority) : List Priority :=
  all.filter fun other => other.rank < priority.rank

def toJson (priority : Priority) : Json := .text priority.name

def ofJson? : Json → Option Priority := Json.oneOf? all name

end Priority

end Disclosure
