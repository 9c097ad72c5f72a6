import Disclosure.Json.Decode

/-!
# Statuses

The three answers that a node, a leaf or a decision can give.
-/

namespace Disclosure

/-- The result of ticking a node and the outcome of a decision. -/
inductive Status where
  | success
  | failure
  | running
  deriving DecidableEq, Repr, Inhabited

namespace Status

/-- Every status once. -/
def all : List Status := [success, failure, running]

theorem mem_all (status : Status) : status ∈ all := by
  cases status <;> decide

/-- The word for the status. -/
def name : Status → String
  | success => "success"
  | failure => "failure"
  | running => "running"

/-- The letter for the status. -/
def letter : Status → Char
  | success => 's'
  | failure => 'f'
  | running => 'r'

/-- Success for what holds and failure for what does not. -/
def ofBool : Bool → Status
  | true => success
  | false => failure

/-- Success and failure change places. -/
def invert : Status → Status
  | success => failure
  | failure => success
  | running => running

@[simp]
theorem invert_invert (status : Status) : status.invert.invert = status := by
  cases status <;> rfl

/-- The name of the status. -/
def toJson (status : Status) : Json := .text status.name

/-- The status of a given name. -/
def ofJson? : Json → Option Status := Json.oneOf? all name

end Status

end Disclosure
