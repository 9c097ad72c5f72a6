import Disclosure.Tree.Weight

/-!
# Decisions and who settles them

A decision stands in for a human or for an outside event.  A policy settles it,
knowing how many decisions came before, so that it can be as stubborn or as
scheming as anyone likes.  An arbiter follows a policy and writes down what it
was asked and what it answered.
-/

namespace Disclosure

/-- A named decision point with its default weight. -/
structure Decision where
  name : String
  weight : Weight

/-- Settles the decision of some number, given the random stream. -/
structure Policy where
  settle : Nat → Decision → RandomStream → Status × RandomStream

namespace Policy

/-- Sample every decision from its weight. -/
def weighted : Policy where
  settle _ decision stream := decision.weight.sample stream

/-- Fixed outcomes for some decisions, a later row over an earlier one. -/
abbrev Script := List (String × Status)

/-- The outcome that a script fixes for a name. -/
def Script.outcome? (script : Script) (name : String) : Option Status :=
  (script.reverse.find? fun row => row.1 == name).map (·.2)

/-- Follow the script where it speaks, sample elsewhere. -/
def scripted (script : Script) : Policy where
  settle _ decision stream :=
    match script.outcome? decision.name with
    | some outcome => (outcome, stream)
    | none => decision.weight.sample stream

/--
Read the outcomes off a tape, beginning with the decision of number `start`, and
leave the decisions after its end to another policy.
-/
def taped (start : Nat) (tape : Array Status) (afterwards : Policy) :
    Policy where
  settle number decision stream :=
    match tape[number - start]? with
    | some outcome => (outcome, stream)
    | none => afterwards.settle number decision stream

end Policy

/-- A decision that was asked, and the outcome that it got. -/
structure Answer where
  decision : Decision
  outcome : Status

/-- The answer on one line: what was asked, by which weight, and the outcome. -/
def Answer.line (answer : Answer) : String :=
  answer.decision.name ++ " " ++ answer.decision.weight.code ++ " "
    ++ answer.outcome.letter.toString

/-- Follows a policy and keeps a record. -/
structure Arbiter where
  policy : Policy
  /-- How many decisions were settled. -/
  asked : Nat
  /-- What was asked and answered since the record was last cleared. -/
  record : Array Answer

namespace Arbiter

/-- An arbiter that was asked nothing yet. -/
def new (policy : Policy) : Arbiter := ⟨policy, 0, #[]⟩

/-- Settle a decision by the policy. -/
def settle (arbiter : Arbiter) (decision : Decision) (stream : RandomStream) :
    Status × Arbiter × RandomStream :=
  let (outcome, stream) :=
    arbiter.policy.settle arbiter.asked decision stream
  (outcome,
    { arbiter with
      asked := arbiter.asked + 1
      record := arbiter.record.push ⟨decision, outcome⟩ },
    stream)

/-- The same arbiter with an empty record. -/
def clearRecord (arbiter : Arbiter) : Arbiter := { arbiter with record := #[] }

end Arbiter

/--
What a tree needs of the state that it works on: a random source for the order
of parallel children, and somebody who settles decisions.
-/
class Blackboard (β : Type) where
  random : β → RandomStream
  setRandom : RandomStream → β → β
  decide : Decision → β → Status × β

end Disclosure
