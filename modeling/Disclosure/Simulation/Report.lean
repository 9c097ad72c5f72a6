import Disclosure.Actor.Actor
import Disclosure.Simulation.Config

/-!
# Reports

What is told at the end of a run: how long it took, what became of the messages,
and a summary of each actor.
-/

namespace Disclosure

structure Report where
  mode : Mode
  /-- Rounds that were run, or the ticks of the actor with the most. -/
  rounds : Nat
  delivered : Nat
  /-- Messages for somebody who was never there. -/
  undelivered : Nat
  /-- Messages for somebody who was done already. -/
  dropped : Nat
  actors : List Summary
  deriving DecidableEq, Repr

namespace Report

def allClosed (report : Report) : Bool := report.actors.all Summary.closed

/-- The summary of the first actor of a name. -/
def actor? (report : Report) (name : String) : Option Summary :=
  report.actors.find? fun actor => actor.name == name

/-! ## Table -/

/-- A text at the left side of a column. -/
def leftColumn (width : Nat) (text : String) : String :=
  text ++ .ofList (List.replicate (width - text.length) ' ')

/-- A text at the right side of a column. -/
def rightColumn (width : Nat) (text : String) : String :=
  .ofList (List.replicate (width - text.length) ' ') ++ text

/-- One line of the table. -/
def tableLine (name roles ticks report embargo caseState sent history : String) :
    String :=
  " ".intercalate
    [leftColumn 16 name, leftColumn 6 roles, rightColumn 6 ticks,
     leftColumn 9 report, leftColumn 8 embargo, leftColumn 7 caseState,
     rightColumn 5 sent] ++ "  " ++ history ++ "\n"

/-- The line above the table. -/
def headLine (report : Report) : String :=
  "mode=" ++ report.mode.name ++ " rounds=" ++ toString report.rounds
    ++ " delivered=" ++ toString report.delivered
    ++ " undelivered=" ++ toString report.undelivered
    ++ " dropped=" ++ toString report.dropped ++ "\n"

/-- The line of an actor. -/
def actorLine (actor : Summary) : String :=
  tableLine actor.name actor.roles.code (toString actor.ticks.toNat)
    actor.report.code actor.embargo.code actor.caseState.code
    (toString actor.messagesSent.toNat)
    (">".intercalate (actor.reportHistory.map ReportState.code))

/-- The report as a table with one line for each actor. -/
def toTable (report : Report) : String :=
  report.headLine
    ++ tableLine "ACTOR" "ROLE" "TICKS" "RM" "EM" "CS" "SENT" "RM HISTORY"
    ++ String.join (report.actors.map actorLine)

/-! ## JSON -/

def toJson (report : Report) : Json :=
  .record
    [("mode", .text report.mode.name),
     ("rounds", .nat report.rounds),
     ("delivered", .nat report.delivered),
     ("undelivered", .nat report.undelivered),
     ("dropped", .nat report.dropped),
     ("actors", .list (report.actors.map Summary.toJson))]

end Report

end Disclosure
