import Disclosure.Case.ValueError
import Disclosure.Json.Decode
import Disclosure.Text.Blank

/-!
# Embargo management

The state of the embargo as one participant sees it, and the six kinds of move
with the states that each may start from.
-/

namespace Disclosure

/-- The state of embargo management. -/
inductive EmbargoState where
  | noEmbargo
  | proposed
  | active
  | revise
  | exited
  deriving DecidableEq, Repr, Inhabited

namespace EmbargoState

/-- Every state once, in the order of the life of an embargo. -/
def all : List EmbargoState := [noEmbargo, proposed, active, revise, exited]

theorem mem_all (state : EmbargoState) : state ∈ all := by
  cases state <;> decide

/-- The one-letter code. -/
def code : EmbargoState → String
  | noEmbargo => "N"
  | proposed => "P"
  | active => "A"
  | revise => "R"
  | exited => "X"

/-- The name as part of the name of a node. -/
def name : EmbargoState → String
  | noEmbargo => "NoEmbargo"
  | proposed => "Proposed"
  | active => "Active"
  | revise => "Revise"
  | exited => "Exited"

/-- The name in reports. -/
def longName : EmbargoState → String
  | noEmbargo => "NOEMBARGO"
  | proposed => "PROPOSED"
  | active => "ACTIVE"
  | revise => "REVISE"
  | exited => "EXITED"

/-- An embargo is in force, possibly while it is being revised. -/
def inForce (state : EmbargoState) : Bool :=
  state == active || state == revise

/-- Reads a code in either case. -/
def parse (text : String) : Except ValueError EmbargoState :=
  match all.find? fun state => Text.sameFolded state.code text with
  | some state => .ok state
  | none => .error (.unknownState text)

def toJson (state : EmbargoState) : Json := .text state.longName

def ofJson? : Json → Option EmbargoState := Json.oneOf? all longName

end EmbargoState

/-- A kind of move between embargo states. -/
inductive EmbargoMove where
  | propose
  | reject
  | accept
  | revise
  | rejectRevision
  | terminate
  deriving DecidableEq, Repr

namespace EmbargoMove

/-- Every kind of move once. -/
def all : List EmbargoMove :=
  [propose, reject, accept, revise, rejectRevision, terminate]

def name : EmbargoMove → String
  | propose => "Propose"
  | reject => "Reject"
  | accept => "Accept"
  | revise => "Revise"
  | rejectRevision => "RejectRevision"
  | terminate => "Terminate"

/-- The states that the move may start from. -/
def starts : EmbargoMove → List EmbargoState
  | propose => [.noEmbargo, .proposed]
  | reject => [.proposed]
  | accept => [.proposed, .revise]
  | revise => [.active, .revise]
  | rejectRevision => [.revise]
  | terminate => [.active, .revise]

/-- The state that the move ends in. -/
def target : EmbargoMove → EmbargoState
  | propose => .proposed
  | reject => .noEmbargo
  | accept => .active
  | revise => .revise
  | rejectRevision => .active
  | terminate => .exited

/-- Whether a request to make the move succeeds in a state. -/
def appliesTo (move : EmbargoMove) (state : EmbargoState) : Bool :=
  state == move.target || move.starts.contains state

end EmbargoMove

end Disclosure
