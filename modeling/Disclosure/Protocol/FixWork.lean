import Disclosure.Protocol.Mail

/-!
# Work on a fix

Vendors develop a fix for a report that they have accepted.  A deployer deploys
it: at once when it is the vendor itself, otherwise when the fix is public.
-/

namespace Disclosure.Behavior

/-! ## Development -/

/-- Develop a fix, unless that is not possible or not needed any more. -/
def developFix : Behavior :=
  .fallback "DevelopFix"
    [.condition "CannotDevelopFix" fun actor =>
      !actor.roles.vendor || !actor.abilities.developFix,
     vendorHasFix,
     .sequence "CreateFixForAcceptedReports"
      [reportIn .accepted,
       .decision "CreateFix" .almostAlwaysSucceed,
       toCase .fixReady,
       emit .fixReady]]

/-! ## Deployment -/

/-- Take the deployment on, or put it off. -/
def decideWhetherToDeploy : Behavior :=
  .fallback "DecideWhetherToDeploy"
    [reportIn .deferred,
     reportIn .accepted,
     .sequence "DecideToAcceptDeploymentTasking"
      [.decision "PrioritizeDeployment" .almostAlwaysSucceed,
       toReport .accepted,
       emit .reportAccepted],
     .sequence "DeferDeploymentTasking"
      [toReport .deferred, emit .reportDeferred]]

/-- Deploy a fix that is there and that the actor may deploy. -/
def deployFixWhenReady : Behavior :=
  .sequence "DeployFixWhenReady"
    [.fallback "DecideAbilityToDeploy"
      [isVendor,
       .condition "CSinStateNotDeployedButPublicAware" fun actor =>
        !actor.caseState.fixDeployed && actor.caseState.publicAware],
     .condition "CSinStateVendorAwareFixReadyFixNotDeployed" fun actor =>
      actor.caseState.vendorHasFix && !actor.caseState.fixDeployed,
     .decision "DeployFix" .almostAlwaysFail,
     toCase .fixDeployed,
     emit .fixDeployed]

/-- Deploy the fix or at least a mitigation. -/
def deploy : Behavior :=
  .fallback "Deploy"
    [reportIn .deferred,
     caseHas .fixDeployed,
     deployFixWhenReady,
     .decision "MitigationDeployed" .usuallyFail,
     .sequence "DeployMitigationWhenReady"
      [.decision "MitigationAvailable" .oftenSucceed,
       .decision "DeployMitigation" .usuallySucceed]]

/-- Deploy, or watch others deploy. -/
def deployment : Behavior :=
  .fallback "Deployment"
    [caseHas .fixDeployed,
     .sequence "ShouldStayInRmDeferred"
      [reportIn .deferred,
       .decision "NoNewDeploymentInfo" .usuallySucceed],
     .sequence "DeployIfDesired"
      [.condition "CanDeployFix" fun actor =>
        actor.roles.deployer && actor.abilities.deployFix,
       decideWhetherToDeploy,
       deploy],
     .sequence "MonitorDeploymentIfDesired"
      [.decision "MonitoringRequirement" .oftenSucceed,
       .decision "MonitorDeployment" .alwaysSucceed]]

end Disclosure.Behavior
