import Disclosure.Protocol.Mail

/-!
# Identifiers for vulnerabilities

A vulnerability without an identifier gets one from whoever may assign it.
-/

namespace Disclosure

namespace ActorState

/-- An identifier made of 128 random bits, six of which tell how it was made. -/
def identifierText (high low : UInt64) : String :=
  let high := (high &&& 0xffffffffffff0fff) ||| 0x4000
  let low := (low &&& 0x3fffffffffffffff) ||| 0x8000000000000000
  "VU#" ++ Text.hexPadded 16 high.toNat ++ Text.hexPadded 16 low.toNat

/-- Give the vulnerability a new identifier. -/
def assignIdentifier (state : ActorState) : ActorState :=
  let (high, identifiers) := state.identifiers.next64
  let (low, identifiers) := identifiers.next64
  { state with
    identifiers, vulnerabilityId := some (identifierText high low) }

end ActorState

namespace Behavior

/-- Assign an identifier, for an authority that can. -/
def assignIfAuthority : Behavior :=
  .sequence "AssignIdIfPossible"
    [.decision "IsIDAssignmentAuthority" .oftenSucceed,
     .decision "IdAssignable" .probablySucceed,
     .decision "AssignId" .alwaysSucceed,
     .effect "RecordVulId" ActorState.assignIdentifier]

/-- Assign an identifier or ask for one, unless there is one. -/
def assignIdentifier : Behavior :=
  .fallback "AssignVulID"
    [.condition "IdAssigned" fun actor => actor.vulnerabilityId.isSome,
     .sequence "AssignIdIfInScope"
      [.decision "InScope" .usuallySucceed,
       .fallback "AssignOrRequestId"
        [assignIfAuthority,
         .decision "RequestId" .usuallySucceed]]]

end Behavior

end Disclosure
