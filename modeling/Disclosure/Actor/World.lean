import Disclosure.Case.Message
import Disclosure.Case.Report
import Disclosure.Random.Draw

/-!
# The outside world

What reaches an actor from outside of the case: a report while there is none,
and now and then news that the case went public, was exploited or attacked.
-/

namespace Disclosure.World

/-- The name under which the outside world writes. -/
def sender : String := "world"

/-- Two in five, as a part of the 64-bit words. -/
def twoInFive : UInt64 := 7378697629483821056

/-- Three in five, as a part of the 64-bit words. -/
def threeInFive : UInt64 := 11068046444225730560

/-- One in twenty, as a part of the 64-bit words. -/
def oneInTwenty : UInt64 := 922337203685477632

/-- What kind of news there is, once there is any. -/
def drawNews (stream : RandomStream) : MessageType × RandomStream :=
  let (goesPublic, stream) := stream.flip threeInFive
  if goesPublic then (.publicAware, stream)
  else
    let (attacked, stream) := stream.flip threeInFive
    (if attacked then .attacksObserved else .exploitPublished, stream)

/-- Perhaps a message for an actor whose report is in a given state. -/
def drawMessage (report : ReportState) (stream : RandomStream) :
    Option Message × RandomStream :=
  let chance := if report = .start then twoInFive else oneInTwenty
  let (comes, stream) := stream.flip chance
  if !comes then (none, stream)
  else if report = .start then
    (some (.broadcast .reportSubmission sender), stream)
  else
    let (type, stream) := drawNews stream
    (some (.broadcast type sender), stream)

end Disclosure.World
