import Disclosure.Protocol.Mail

/-!
# The course of a report

An actor that has no report yet may find the vulnerability on its own.  A report
is valid or not, and an invalid one is looked at again when there may be new
information.  It is closed once its fix is deployed, or when it was deferred or
found invalid.
-/

namespace Disclosure.Behavior

/-! ## Discovery -/

/-- Find the vulnerability and submit a report; a vendor becomes aware. -/
def discoverVulnerability : Behavior :=
  .fallback "DiscoverVulnerabilityBt"
    [reportNotIn .start,
     .sequence "FindVulnerability"
      [.condition "HaveDiscoveryCapability" fun actor =>
        actor.abilities.discoverVulnerability,
       .decision "HaveDiscoveryPriority" .alwaysSucceed,
       .decision "DiscoverVulnerability" .probablySucceed,
       toReport .received,
       emit .reportSubmission,
       .fallback "MaybeBecomeVendorAware"
        [isNoVendor,
         caseHas .vendorAware,
         .sequence "VendorDiscovery"
          [toCase .vendorAware, emit .vendorAware]]],
     .decision "NoVulFound" .alwaysSucceed]

/-! ## Validation -/

/-- There is enough information, or looking for more brought nothing new. -/
def ensureValidationInfo : Behavior :=
  .fallback "EnsureAdequateValidationInfo"
    [.decision "EnoughValidationInfo" .usuallySucceed,
     .sequence "GetMoreValidationInfo"
      [.decision "GatherValidationInfo" .almostAlwaysSucceed,
       .decision "NoNewValidationInfo" .probablySucceed]]

/-- Find the report credible and valid. -/
def evaluateReport : Behavior :=
  .sequence "ValidationSequence"
    [reportAxis.inAny "ReceivedOrInvalid" [.received, .invalid],
     .decision "EvaluateReportCredibility" .almostAlwaysSucceed,
     .decision "EvaluateReportValidity" .almostAlwaysSucceed,
     .sequence "ValidateReport" [toReport .valid, emit .reportValid]]

/-- Make a report valid or invalid. -/
def validateReport : Behavior :=
  .fallback "RMValidateBt"
    [reportIn .valid,
     .sequence "HandleRmI" [reportIn .invalid, ensureValidationInfo],
     evaluateReport,
     .sequence "InvalidateReport" [toReport .invalid, emit .reportInvalid]]

/-! ## Closing -/

/-- Close the report if nothing keeps it open. -/
def closeReport : Behavior :=
  .fallback "RMCloseBt"
    [reportIn .closed,
     .sequence "ReportClosureSequence"
      [.sequence "CloseCriteriaMet"
        [.fallback "DeployedDeferredOrInvalid"
          [caseHas .fixDeployed, reportIn .deferred, reportIn .invalid],
         .decision "OtherCloseCriteriaMet" .usuallyFail],
       .decision "PreCloseAction" .alwaysSucceed,
       .sequence "CloseAndNotify" [toReport .closed, emit .reportClosed]]]

end Disclosure.Behavior
