import Disclosure.Protocol.EmbargoTalks

/-!
# Threats

Watching for attacks, exploits and public reports.  What is seen for the first
time is announced and ends the embargo.
-/

namespace Disclosure.Behavior

/-- The case becomes public. -/
def moveToPublic : Behavior :=
  .sequence "MoveToCsPublic" [toCase .publicAware, emit .publicAware]

/-- Watch for three kinds of event; one of them is enough. -/
def monitorEvents : Behavior :=
  .parallel "MonitorExternalEvents" 1
    [.sequence "NoticeAttack"
      [.decision "MonitorAttacks" .almostAlwaysFail,
       caseLacks .attacksObserved,
       toCase .attacksObserved,
       emit .attacksObserved],
     .sequence "NoticeExploit"
      [.decision "MonitorExploits" .almostAlwaysFail,
       caseLacks .exploitPublic,
       .fallback "EnsureCsInPublic" [caseHas .publicAware, moveToPublic],
       toCase .exploitPublic,
       emit .exploitPublished],
     .sequence "NoticePublicReport"
      [.decision "MonitorPublicReports" .usuallyFail,
       caseLacks .publicAware,
       moveToPublic]]

/-- End the embargo if an event calls for it; seeing nothing is fine too. -/
def monitorThreats : Behavior :=
  .fallback "MonitorThreats"
    [.sequence "EndEmbargoIfEventsWarrant" [monitorEvents, terminateEmbargo],
     .decision "NoThreatsFound" .alwaysSucceed]

end Disclosure.Behavior
