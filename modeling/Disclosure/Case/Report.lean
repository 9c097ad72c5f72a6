import Disclosure.Case.ValueError
import Disclosure.Json.Decode
import Disclosure.Text.Blank

/-!
# Report management

Where a participant stands with a report.  The moves that are open are given by
the states from which each state may be reached.
-/

namespace Disclosure

/-- The state of report management. -/
inductive ReportState where
  | start
  | received
  | invalid
  | valid
  | deferred
  | accepted
  | closed
  deriving DecidableEq, Repr, Inhabited

namespace ReportState

/-- Every state once, in the order of the life of a report. -/
def all : List ReportState :=
  [start, received, invalid, valid, deferred, accepted, closed]

theorem mem_all (state : ReportState) : state ∈ all := by
  cases state <;> decide

/-- The states from which a report may be closed. -/
def closable : List ReportState := [invalid, deferred, accepted]

/-- All states but the last. -/
def unclosed : List ReportState :=
  [start, received, invalid, valid, deferred, accepted]

/-- The states in which a report is worked on. -/
def active : List ReportState := [received, valid, accepted]

/-- The states from which this state may be reached in one move. -/
def allowedFrom : ReportState → List ReportState
  | start => []
  | received => [start]
  | invalid => [received]
  | valid => [received, invalid]
  | deferred => [valid, accepted]
  | accepted => [valid, deferred]
  | closed => [invalid, deferred, accepted]

/-- Whether a request to be in `target` succeeds; to stay always does. -/
def canMoveTo (state target : ReportState) : Bool :=
  state == target || target.allowedFrom.contains state

/-- The one-letter code. -/
def code : ReportState → String
  | start => "S"
  | received => "R"
  | invalid => "I"
  | valid => "V"
  | deferred => "D"
  | accepted => "A"
  | closed => "C"

/-- The name as part of the name of a node. -/
def name : ReportState → String
  | start => "Start"
  | received => "Received"
  | invalid => "Invalid"
  | valid => "Valid"
  | deferred => "Deferred"
  | accepted => "Accepted"
  | closed => "Closed"

/-- The name in reports. -/
def longName : ReportState → String
  | start => "START"
  | received => "RECEIVED"
  | invalid => "INVALID"
  | valid => "VALID"
  | deferred => "DEFERRED"
  | accepted => "ACCEPTED"
  | closed => "CLOSED"

/-- Reads a code in either case. -/
def parse (text : String) : Except ValueError ReportState :=
  match all.find? fun state => Text.sameFolded state.code text with
  | some state => .ok state
  | none => .error (.unknownState text)

def toJson (state : ReportState) : Json := .text state.longName

def ofJson? : Json → Option ReportState := Json.oneOf? all longName

end ReportState

end Disclosure
