import Disclosure.Actor.State
import Disclosure.Tree.Basic

/-!
# Conditions and moves

The leaves and small trees that the protocol is made of: questions about the
state of an actor, and guarded moves along its three axes.  A move that is
already made succeeds and changes nothing; one that is not open fails and
changes nothing.
-/

namespace Disclosure

/-- A behavior of the protocol: a tree that works on the state of an actor. -/
abbrev Behavior := Spec Unit ActorState

namespace Behavior

/-! ## The two axes with named states -/

/-- An axis along which an actor moves from state to state. -/
structure Axis (σ : Type) where
  label : String
  nameOf : σ → String
  current : ActorState → σ
  move : σ → ActorState → ActorState

def reportAxis : Axis ReportState :=
  ⟨"RM", ReportState.name, ActorState.report, ActorState.moveReport⟩

def embargoAxis : Axis EmbargoState :=
  ⟨"EM", EmbargoState.name, ActorState.embargo, ActorState.moveEmbargo⟩

namespace Axis

variable {σ : Type} [DecidableEq σ]

/-- Succeeds in a state. -/
def isIn (axis : Axis σ) (state : σ) : Behavior :=
  .condition (axis.label ++ "inState" ++ axis.nameOf state) fun actor =>
    axis.current actor = state

/-- Succeeds outside of a state. -/
def notIn (axis : Axis σ) (state : σ) : Behavior :=
  .condition (axis.label ++ "notInState" ++ axis.nameOf state) fun actor =>
    axis.current actor ≠ state

/-- Succeeds in any of some states. -/
def inAny (axis : Axis σ) (name : String) (states : List σ) : Behavior :=
  .condition (axis.label ++ "inState" ++ name) fun actor =>
    axis.current actor ∈ states

/-- Moves to a state, from wherever the actor is. -/
def set (axis : Axis σ) (target : σ) : Behavior :=
  .effect ("Set" ++ axis.label ++ axis.nameOf target) (axis.move target)

/-- Moves to a state if the actor is there already or in one of the starts. -/
def moveTo (axis : Axis σ) (name : String) (starts : List σ) (target : σ) :
    Behavior :=
  .fallback name
    [axis.isIn target,
     .sequence (name ++ "_Transition")
      [.condition (name ++ "_AllowedStart") fun actor =>
        axis.current actor ∈ starts,
       axis.set target]]

end Axis

/-! ## Report management -/

def reportIn : ReportState → Behavior := reportAxis.isIn

def reportNotIn : ReportState → Behavior := reportAxis.notIn

/-- The report may be closed. -/
def reportClosable : Behavior := reportAxis.inAny "Closable" ReportState.closable

/-- There is no report, or none any more. -/
def reportStartOrClosed : Behavior :=
  reportAxis.inAny "StartOrClosed" [.start, .closed]

/-- Move the report to a state from one that leads there. -/
def toReport (target : ReportState) : Behavior :=
  reportAxis.moveTo ("q_rm_to_" ++ target.code) target.allowedFrom target

/-- The states that a report can be moved to. -/
def reportTargets : List ReportState :=
  [.received, .invalid, .valid, .deferred, .accepted, .closed]

/-! ## Embargo management -/

def embargoIn : EmbargoState → Behavior := embargoAxis.isIn

def embargoNotIn : EmbargoState → Behavior := embargoAxis.notIn

/-- An embargo is in force. -/
def embargoInForce : Behavior :=
  embargoAxis.inAny "ActiveOrRevise" [.active, .revise]

/-- There is no embargo, or none any more. -/
def embargoNoneOrExited : Behavior :=
  embargoAxis.inAny "NoneOrExited" [.noEmbargo, .exited]

/-- Nothing was agreed that is not open to change. -/
def embargoOpen : Behavior :=
  embargoAxis.inAny "NoneOrProposedOrRevise" [.noEmbargo, .proposed, .revise]

/-- The name of the tree that makes a move. -/
def embargoMoveName : EmbargoMove → String
  | .propose => "q_em_to_P"
  | .reject => "q_em_to_N"
  | .accept => "q_em_to_A"
  | .revise => "q_em_to_R"
  | .rejectRevision => "q_em_R_to_A"
  | .terminate => "q_em_to_X"

/-- Make a move of embargo management. -/
def moveEmbargo (move : EmbargoMove) : Behavior :=
  embargoAxis.moveTo (embargoMoveName move) move.starts move.target

/-! ## The case -/

/-- The capital letter of a flag as a text. -/
def capitalText (flag : CaseFlag) : String := flag.capital.toString

def caseHas (flag : CaseFlag) : Behavior :=
  .condition ("CSin" ++ capitalText flag) fun actor => actor.caseState.has flag

def caseLacks (flag : CaseFlag) : Behavior :=
  .condition ("CSnotIn" ++ capitalText flag) fun actor =>
    !actor.caseState.has flag

/-- Nothing is public and no attack was seen. -/
def caseQuiet : Behavior :=
  .condition "CSinStatePxaClear" fun actor => actor.caseState.isQuiet

/-- Something is public or an attack was seen. -/
def caseNotQuiet : Behavior :=
  .condition "CSinStatePublicOrExploitOrAttacks" fun actor =>
    !actor.caseState.isQuiet

/-- The vendor knows and has a fix. -/
def vendorHasFix : Behavior :=
  .condition "CSinStateVendorAwareAndFixReady" fun actor =>
    actor.caseState.vendorHasFix

/-- Both the vulnerability and an exploit are public. -/
def exploitKnown : Behavior :=
  .condition "CSinStatePublicAndExploit" fun actor =>
    actor.caseState.exploitKnown

/-- Set a flag of the case unless it is set, behind an optional guard. -/
def guardedFlag (flag : CaseFlag) (guards : List Behavior) : Behavior :=
  let name := "q_cs_to_" ++ capitalText flag
  .fallback name
    [caseHas flag,
     .sequence (name ++ "_Transition")
      (guards ++
        [.effect ("Set" ++ capitalText flag) (ActorState.setFlag flag)])]

/-- Set a flag: a fix needs a vendor, a deployed fix needs a fix. -/
def toCase : CaseFlag → Behavior
  | .fixReady => guardedFlag .fixReady [caseHas .vendorAware]
  | .fixDeployed => guardedFlag .fixDeployed [vendorHasFix]
  | flag => guardedFlag flag []

/-! ## Roles -/

/-- The actor plays all of some roles. -/
def roleIs (name : String) (roles : Roles) : Behavior :=
  .condition ("RoleIs" ++ name) fun actor => actor.roles.contains roles

/-- The actor does not play all of some roles. -/
def roleIsNot (name : String) (roles : Roles) : Behavior :=
  .condition ("RoleIsNot" ++ name) fun actor => !actor.roles.contains roles

def isVendor : Behavior := roleIs "Vendor" (.ofList [.vendor])

def isNoVendor : Behavior := roleIsNot "Vendor" (.ofList [.vendor])

def isNoDeployer : Behavior := roleIsNot "Deployer" (.ofList [.deployer])

end Behavior

end Disclosure
