import Disclosure.Proofs.Actor.Run
import Disclosure.Proofs.Record.Entries

/-!
# Deeds on record

Every deed of an actor makes some entries in its record, or none.  So whatever
each entry preserves, every run preserves.
-/

namespace Disclosure

open Record

namespace ActorState

/-- Entries lead from the record of one state to the record of the other. -/
def Enters (before after : ActorState) : Prop :=
  Entries before.record after.record

namespace Enters

variable {before middle after : ActorState}

/-- Nothing was entered. -/
theorem of_same (same : after.record = before.record) :
    Enters before after := by
  rw [Enters, same]

theorem refl (state : ActorState) : Enters state state :=
  .of_same rfl

theorem single (entry : Entry before.record after.record) :
    Enters before after :=
  Relation.ReflTransGen.single entry

theorem trans
    (first : Enters before middle)
    (second : Enters middle after) :
    Enters before after :=
  Relation.ReflTransGen.trans first second

/-- Thinking leaves no trace on record. -/
theorem muses (muses : Muses before after) : Enters before after := by
  obtain ⟨_, _, _, rfl⟩ := Ponders.exists_eq (.single muses)
  exact .of_same rfl

theorem decide (decision : Decision) (state : ActorState) :
    Enters state (state.decide decision).2 :=
  .muses (.ask state decision)

end Enters

/-! ## Moves on record -/

theorem record_broadcast (type : MessageType) (state : ActorState) :
    (state.broadcast type).record = state.record.say type := by
  simp [record, broadcast, send, say]

theorem record_moveReport {stage : ReportState} {state : ActorState}
    (elsewhere : state.report ≠ stage) :
    (state.moveReport stage).record = state.record.enterStage stage := by
  rw [moveReport, if_neg elsewhere]
  rfl

theorem record_moveEmbargo (move : EmbargoMove) (state : ActorState) :
    (state.moveEmbargo move.target).record = state.record.moveEmbargo move := by
  rw [ActorState.moveEmbargo_eq]
  rfl

theorem record_setFlag (flag : CaseFlag) (state : ActorState) :
    (state.setFlag flag).record = state.record.note flag := by
  rw [setFlag, moveCase_eq]
  rfl

/-- To have gone public is to be public, and says nothing about exploits. -/
theorem goPublic_exploit (state : ActorState) :
    state.goPublic.caseState.publicAware = true ∧
      state.goPublic.caseState.exploitPublic =
        state.caseState.exploitPublic := by
  rw [goPublic]
  split
  case isTrue aware => exact ⟨aware, rfl⟩
  case isFalse => simp [broadcast, send, CaseState.insert]

namespace Enters

variable {state : ActorState}

theorem declare {stage : ReportState} {type : MessageType}
    (announced : stage.verdict? = some type)
    (allowed : state.report ∈ stage.allowedFrom)
    (deployed : stage = .closed → state.report = .accepted →
      state.caseState.fixDeployed = true) :
    Enters state ((state.moveReport stage).broadcast type) := by
  apply Enters.single
  rw [record_broadcast,
    record_moveReport (ReportState.ne_of_allowed allowed).1]
  exact .report (.declare announced allowed deployed)

/-- To go on with a report that stays open takes no fix. -/
theorem advance {stage : ReportState} {type : MessageType}
    (announced : stage.verdict? = some type)
    (allowed : state.report ∈ stage.allowedFrom)
    (goesOn : stage ≠ .closed) :
    Enters state ((state.moveReport stage).broadcast type) :=
  declare announced allowed fun last => absurd last goesOn

theorem announce {move : EmbargoMove}
    (starts : state.embargo ∈ move.starts) :
    Enters state (state.announce move) := by
  apply Enters.single
  rw [ActorState.announce, record_broadcast, record_moveEmbargo]
  exact .embargo (.announce starts)

theorem raise (flag : CaseFlag)
    (warranted : state.record.Warrants flag) :
    Enters state ((state.setFlag flag).broadcast flag.news) := by
  apply Enters.single
  rw [record_broadcast, record_setFlag]
  exact .caseState (.raise warranted)

theorem talk {type : MessageType} (talks : type.topic = .talk) :
    Enters state (state.broadcast type) := by
  apply Enters.single
  rw [record_broadcast]
  exact .talk talks

/-- A report that is found invalid was received just now, or is found invalid
once more. -/
theorem invalidate (undecided : state.report ∈ [.received, .invalid]) :
    Enters state ((state.moveReport .invalid).broadcast .reportInvalid) := by
  rcases List.mem_pair.mp undecided with received | invalid
  · have allowed : state.report ∈ ReportState.invalid.allowedFrom := by
      simp [received, ReportState.allowedFrom]
    exact advance rfl allowed (by simp)
  · rw [← invalid, moveReport_self]
    apply Enters.single
    rw [record_broadcast]
    exact .report (.insist invalid)

theorem follow {move : EmbargoMove} (starts : state.embargo ∈ move.starts) :
    Enters state (state.moveEmbargo move.target) := by
  apply Enters.single
  rw [record_moveEmbargo]
  exact .embargo (.follow starts)

theorem hear {flag : CaseFlag}
    (others : flag.isPublic = true)
    (known : flag = .exploitPublic → state.caseState.publicAware = true) :
    Enters state (state.setFlag flag) := by
  apply Enters.single
  rw [record_setFlag]
  exact .caseState (.hear others known)

/-! ### Moves that belong together -/

theorem learn (state : ActorState) : Enters state state.learn := by
  rw [ActorState.learn]
  split
  case isTrue unaware =>
    have missing : state.caseState.vendorAware = false := by
      simpa using unaware.2
    exact raise .vendorAware ⟨unaware.1, missing⟩
  case isFalse => exact refl state

theorem discover (nothing : state.report = .start) :
    Enters state state.discover := by
  have submitted : Enters state
      ((state.moveReport .received).broadcast .reportSubmission) := by
    apply Enters.single
    rw [record_broadcast, record_moveReport (by simp [nothing])]
    exact .report (.submit nothing)
  exact submitted.trans (learn _)

theorem takeSubmission (state : ActorState) :
    Enters state state.takeSubmission := by
  rw [ActorState.takeSubmission]
  split
  case isTrue nothing =>
    have received : Enters state (state.moveReport .received) := by
      apply Enters.single
      rw [record_moveReport (by simp [nothing])]
      exact .report (.receive nothing)
    exact received.trans (learn _)
  case isFalse => exact learn state

theorem goPublic (state : ActorState) : Enters state state.goPublic := by
  rw [ActorState.goPublic]
  split
  · exact refl state
  · exact raise .publicAware trivial

/-- News of an exploit makes the vulnerability public in the same entry. -/
theorem hearNews (state : ActorState) (type : MessageType) :
    Enters state (state.hearNews type) := by
  rw [hearNews.eq_def]
  split
  · exact hear rfl (by simp)
  · rw [ActorState.goPublic]
    split
    case isTrue aware =>
      have awareBefore : state.caseState.publicAware = true := by
        simpa [CaseState.insert] using aware
      exact hear rfl fun _ => awareBefore
    case isFalse =>
      apply Enters.single
      rw [record_broadcast, record_setFlag, record_setFlag]
      exact .caseState (.expose _)
  · exact hear rfl (by simp)
  · exact refl state

theorem witness {threat : Threat}
    (new : state.caseState.has threat.flag = false) :
    Enters state (state.witness threat) := by
  cases threat with
  | attack =>
    exact raise .attacksObserved new
  | exploit =>
    rcases goPublic_exploit state with ⟨aware, same⟩
    have warranted : state.goPublic.record.Warrants .exploitPublic :=
      ⟨aware, same.trans new⟩
    exact (goPublic state).trans (raise .exploitPublic warranted)
  | publicReport => exact raise .publicAware trivial

theorem ends {before after : ActorState} (ends : EndsEmbargo before after) :
    Enters before after := by
  cases ends with
  | nothing => exact refl before
  | withdraw proposed => exact announce (by simp [proposed, EmbargoMove.starts])
  | terminate inForce =>
    exact (decide exitDecision before).trans (announce inForce)
  | refused => exact decide exitDecision before

/-! ### Prioritization -/

theorem putOff
    (decidable : state.report ∈ [.valid, .deferred, .accepted]) :
    Enters state state.putOff := by
  simp only [ActorState.putOff]
  split
  case isTrue => exact refl state
  case isFalse undeferred =>
    have asked := decide deferDecision state
    have allowed : state.report ∈ ReportState.deferred.allowedFrom := by
      simp_all [ReportState.allowedFrom]
    split
    · exact asked.trans (advance rfl allowed (by simp))
    · exact asked

theorem prioritize
    (decidable : state.report ∈ [.valid, .deferred, .accepted]) :
    Enters state state.prioritize := by
  obtain ⟨priority, prioritizations, stream, arbiter, _, same⟩ :=
    evaluatePriority_eq state
  have considered : Enters state state.evaluatePriority := by
    rw [same]
    exact .of_same rfl
  have decidableStill :
      state.evaluatePriority.report ∈ [.valid, .deferred, .accepted] := by
    rw [same]
    exact decidable
  simp only [ActorState.prioritize]
  split
  · exact considered.trans (putOff decidableStill)
  split
  case isTrue => exact considered
  case isFalse unaccepted =>
    have asked := considered.trans (decide acceptDecision _)
    have allowed : state.evaluatePriority.report ∈
        ReportState.accepted.allowedFrom := by
      simp_all [ReportState.allowedFrom]
    split
    · exact asked.trans (advance rfl allowed (by simp))
    · exact asked.trans (putOff decidableStill)
    · exact asked

/-! ### Outreach -/

theorem choose (state : ActorState) :
    Enters state state.chooseRecipient.2 := by
  rw [chooseRecipient]
  split
  · exact refl state
  · exact .of_same rfl

theorem strike (state : ActorState) : Enters state state.removeRecipient := by
  rw [removeRecipient]
  split
  · exact refl state
  · exact .of_same rfl

theorem engage {candidate : Participant}
    (known : state.recipient? = some candidate) :
    Enters state state.engage := by
  rcases exists_of_recipient known with ⟨name, chosen, listed⟩
  have named : candidate.name = name := by
    simpa using List.find?_some listed
  have welcomed : state.engage.record =
      state.record.welcome (state.newcomer candidate) := by
    rw [engage_eq chosen listed, ← named]
    simp [record, told, send, welcome, newcomer, briefed]
  apply Enters.single
  rw [welcomed]
  exact .welcome rfl

end Enters

/-! ## Deeds on record -/

/-- Every deed makes entries in the record, or none. -/
theorem Deed.enters {before after : ActorState} (deed : Deed before after) :
    Enters before after := by
  cases deed with
  | muse muses => exact .muses muses
  | snapshot | takeUp | putBack | finish | inject | assign =>
    exact .of_same rfl
  | @acknowledge message =>
    exact .talk message.category.topic_reply.1
  | @complain message => exact .talk message.category.topic_reply.2
  | inquire => exact .talk rfl
  | discover _ nothing => exact .discover nothing
  | takeSubmission => exact .takeSubmission before
  | follow _ follows =>
    exact .follow (EmbargoMove.following_starts follows).1
  | hearNews _ _ ends => exact (Enters.hearNews before _).trans (.ends ends)
  | witness threat new ends => exact (Enters.witness new).trans (.ends ends)
  | announce move starts => exact .announce starts
  | validate undecided => exact .advance rfl undecided (by simp)
  | invalidate undecided => exact .invalidate undecided
  | close closable deployed => exact .declare rfl closable fun _ => deployed
  | prioritize decidable => exact .prioritize decidable
  | createFix able _ missing aware =>
    exact .raise .fixReady ⟨able, missing, aware⟩
  | deployFix able _ ready missing =>
    exact .raise .fixDeployed ⟨able, ready, missing⟩
  | publish => exact .raise .publicAware trivial
  | choose => exact .choose before
  | strike => exact .strike before
  | engage known => exact .engage known

/-- What every entry preserves is an invariant of the record. -/
theorem Invariant.of_entries {property : Record → Prop}
    (kept : ∀ before after, property before → Entry before after →
      property after) :
    Invariant fun state => property state.record where
  deliver _ _ holds := holds
  clock _ holds := holds
  clearRecord _ holds := holds
  deed _ _ holds deed := Entries.preserves kept deed.enters holds

end ActorState

/-- What holds of the record of a beginner and what every entry preserves, holds
of the record after every run. -/
theorem Actor.exists_recorded {property : Record → Prop}
    (kept : ∀ before after, property before → Entry before after →
      property after)
    {name : String} {roles : Roles} {abilities : Capabilities}
    (begins : property (.beginning name roles abilities))
    (chance : Chance) (policy : Policy) (events : List Event) :
    ∃ actor, start name roles abilities chance policy = .ok actor ∧
      property (actor.play events).state.record := by
  obtain ⟨actor, started, live, state⟩ :=
    exists_start name roles abilities chance policy
  have recorded : actor.Has fun state => property state.record := by
    refine ⟨live, ?_⟩
    rw [state]
    exact begins
  have after := recorded.play (.of_entries kept) events
  exact ⟨actor, started, after.2⟩

end Disclosure
