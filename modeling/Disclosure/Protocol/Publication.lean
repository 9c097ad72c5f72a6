import Disclosure.Protocol.EmbargoTalks
import Disclosure.Protocol.FixWork

/-!
# Publication

Preparing what shall be published, and going public when no embargo stands
against it.
-/

namespace Disclosure.Behavior

/-- Get an exploit from outside of the case. -/
def acquireExploit : Behavior := .decision "AcquireExploit" .usuallyFail

/-- Prepare an exploit, or leave it. -/
def prepareExploit : Behavior :=
  .fallback "MaybePrepareExploitForPublication"
    [.decision "NoPublishExploit" .usuallySucceed,
     .decision "ExploitReady" .oftenSucceed,
     .fallback "ReadyExploitForPublication"
      [acquireExploit,
       .decision "PrepareExploit" .almostAlwaysSucceed],
     .decision "ReprioritizeExploit" .alwaysSucceed]

/-- Prepare a fix, or leave it. -/
def prepareFix : Behavior :=
  .fallback "MaybePrepareFixForPublication"
    [.decision "NoPublishFix" .almostAlwaysFail,
     vendorHasFix,
     .sequence "ReadyFixForPublication"
      [developFix,
       .decision "PrepareFix" .almostAlwaysSucceed],
     .decision "ReprioritizeFix" .alwaysSucceed]

/-- Prepare a report, or leave it. -/
def prepareReport : Behavior :=
  .fallback "MaybePrepareReportForPublication"
    [.decision "NoPublishReport" .almostAlwaysFail,
     .decision "PrepareReport" .almostAlwaysSucceed,
     .decision "ReprioritizeReport" .alwaysSucceed]

/-- All that shall be published is published, or it is prepared and the case
goes public as soon as the embargo talks allow. -/
def publication : Behavior :=
  .fallback "Publication"
    [.sequence "EnsureAllDesiredItemsArePublished"
      [.fallback "EnsurePublicationPriorityIsSet"
        [.decision "PublicationIntentsSet" .usuallyFail,
         .decision "PrioritizePublicationIntents" .alwaysSucceed],
       .decision "AllPublished" .almostAlwaysFail],
     .sequence "PublishWhenReady"
      [.sequence "PreparePublication"
        [prepareExploit, prepareFix, prepareReport],
       embargoManagement,
       embargoNoneOrExited,
       .decision "Publish" .almostAlwaysSucceed,
       toCase .publicAware,
       emit .publicAware]]

end Disclosure.Behavior
