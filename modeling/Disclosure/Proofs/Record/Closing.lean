import Disclosure.Proofs.Record.Authority
import Disclosure.Proofs.Record.Ordering

/-!
# How a report is closed

A report is closed at most once, and this is announced once.  It is closed when it
was found invalid or was deferred, or when it was accepted and its fix is deployed.
Deploying a fix takes authority, so that whoever is no vendor or no deployer never
closes a report that it has accepted.
-/

namespace Disclosure

/-- Only of the last stage it is announced that the report is closed. -/
theorem ReportState.eq_closed_of_verdict {stage : ReportState}
    (announced : stage.verdict? = some .reportClosed) :
    stage = .closed := by
  cases stage <;> cases announced
  rfl

/-- Nothing more happens to a report that is closed. -/
theorem ReportEntry.open_before {before after : Record}
    (entry : ReportEntry before after) :
    before.report ≠ .closed := by
  cases entry with
  | receive nothing | submit nothing => simp [nothing]
  | declare _ allowed => exact (ReportState.ne_of_allowed allowed).2
  | insist invalid => simp [invalid]

namespace Record

/-- The report is open, and nobody was told otherwise. -/
structure Open (record : Record) : Prop where
  report : record.report ≠ .closed
  current : ∃ earlier, record.reportHistory = earlier ++ [record.report]
  never : .closed ∉ record.reportHistory
  unsaid : .reportClosed ∉ record.about .verdict

/-- The report was closed at a stage that may be closed, after some earlier ones,
and everybody was told so once.  An accepted report was closed with its fix
deployed. -/
structure ClosedAt (record : Record) (earlier : List ReportState)
    (last : ReportState) : Prop where
  report : record.report = .closed
  history : record.reportHistory = earlier ++ [last, .closed]
  once : .closed ∉ earlier
  closable : last ∈ ReportState.closed.allowedFrom
  said : (record.about .verdict).count .reportClosed = 1
  deployed : last = .accepted → record.caseState.has .fixDeployed = true

/-- The report is open, or it was closed properly. -/
def ProperlyKept (record : Record) : Prop :=
  record.Open ∨ ∃ earlier last, record.ClosedAt earlier last

variable {record before after : Record}

/-- That the report was closed is a verdict. -/
theorem count_closed (record : Record) :
    record.said.count .reportClosed =
      (record.about .verdict).count .reportClosed :=
  (record.count_about .reportClosed).symm

namespace Open

theorem enterStage {stage : ReportState}
    (opened : record.Open)
    (goesOn : stage ≠ .closed) :
    (record.enterStage stage).Open where
  report := goesOn
  current := ⟨record.reportHistory, rfl⟩
  never := by
    intro among
    rcases List.mem_append.mp among with earlier | now
    · exact opened.never earlier
    · exact goesOn (List.mem_singleton.mp now).symm
  unsaid := opened.unsaid

theorem say {type : MessageType}
    (opened : record.Open)
    (other : type ≠ .reportClosed) :
    (record.say type).Open where
  report := opened.report
  current := opened.current
  never := opened.never
  unsaid := by
    rw [about_say]
    intro among
    rcases List.mem_append.mp among with earlier | now
    · exact opened.unsaid earlier
    · split at now
      · exact other (List.mem_singleton.mp now).symm
      · cases now

/-- To close an open report is to say so for the first time. -/
theorem close
    (opened : record.Open)
    (closable : record.report ∈ ReportState.closed.allowedFrom)
    (deployed : record.report = .accepted →
      record.caseState.has .fixDeployed = true) :
    ∃ earlier last,
      ((record.enterStage .closed).say .reportClosed).ClosedAt earlier last := by
  rcases opened.current with ⟨earlier, current⟩
  have never := opened.never
  have unsaid : (record.about .verdict).count .reportClosed = 0 :=
    List.count_eq_zero.mpr opened.unsaid
  refine ⟨earlier, record.report, ?_⟩
  constructor
  case report => rfl
  case history => simp [Record.say, Record.enterStage, current]
  case once =>
    intro among
    rw [current] at never
    exact never (List.mem_append_left _ among)
  case closable => exact closable
  case said =>
    rw [about_say, List.count_append]
    change (record.about .verdict).count .reportClosed + 1 = 1
    rw [unsaid]
  case deployed => exact deployed

/-- Entries about an open report leave it open or close it properly. -/
theorem reportEntry
    (opened : before.Open)
    (entry : ReportEntry before after) :
    after.ProperlyKept := by
  cases entry with
  | receive => exact .inl (opened.enterStage (by decide))
  | submit =>
    have received : (before.enterStage .received).Open :=
      opened.enterStage (by decide)
    exact .inl (received.say (by decide))
  | insist => exact .inl (opened.say (by decide))
  | @declare stage type announced allowed deployed =>
    by_cases last : stage = .closed
    · subst last
      cases announced
      exact .inr (opened.close allowed (deployed rfl))
    · have other : type ≠ .reportClosed := by
        rintro rfl
        exact last (ReportState.eq_closed_of_verdict announced)
      exact .inl ((opened.enterStage last).say other)

theorem leaves
    (opened : before.Open)
    (leaves : LeavesReport before after) :
    after.Open := by
  constructor
  · rw [leaves.report]
    exact opened.report
  · rw [leaves.history, leaves.report]
    exact opened.current
  · rw [leaves.history]
    exact opened.never
  · rw [leaves.verdicts]
    exact opened.unsaid

end Open

/-- A closed report stays closed: its fix stays deployed, if it was. -/
theorem ClosedAt.leaves {earlier : List ReportState} {last : ReportState}
    (closed : before.ClosedAt earlier last)
    (entry : Entry before after)
    (leaves : LeavesReport before after) :
    after.ClosedAt earlier last where
  report := leaves.report.trans closed.report
  history := leaves.history.trans closed.history
  once := closed.once
  closable := closed.closable
  said := by
    rw [leaves.verdicts]
    exact closed.said
  deployed accepted := entry.keepsFlag (closed.deployed accepted)

namespace ProperlyKept

/-- Every entry keeps the report open or properly closed. -/
theorem entry (kept : before.ProperlyKept) (entry : Entry before after) :
    after.ProperlyKept := by
  -- A closed report has no entries any more; an open one may be closed by one.
  rcases kept with opened | ⟨earlier, last, closed⟩
  · rcases entry.report_or_leaves with reported | leaves
    · exact opened.reportEntry reported
    · exact .inl (opened.leaves leaves)
  · rcases entry.report_or_leaves with reported | leaves
    · exact absurd closed.report reported.open_before
    · exact .inr ⟨earlier, last, closed.leaves entry leaves⟩

theorem beginning (name : String) (roles : Roles) (abilities : Capabilities) :
    (Record.beginning name roles abilities).ProperlyKept := by
  apply Or.inl
  constructor
  · exact nofun
  · exact ⟨[], rfl⟩
  · simp [Record.beginning]
  · exact List.not_mem_nil

end ProperlyKept

/-- The flags are in order, nobody went beyond its authority, and the report is
open or was closed properly. -/
structure WellKept (roles : Roles) (abilities : Capabilities)
    (record : Record) : Prop where
  ordered : record.Ordered
  authorized : record.Authorized roles abilities
  properly : record.ProperlyKept

namespace WellKept

variable {roles : Roles} {abilities : Capabilities}

theorem entry
    (kept : before.WellKept roles abilities)
    (entry : Entry before after) :
    after.WellKept roles abilities where
  ordered := kept.ordered.entry entry
  authorized := kept.authorized.entry entry
  properly := kept.properly.entry entry

theorem beginning (name : String) (roles : Roles) (abilities : Capabilities) :
    (Record.beginning name roles abilities).WellKept roles abilities where
  ordered := .beginning name roles abilities
  authorized := .beginning name roles abilities
  properly := .beginning name roles abilities

/-- A deployed fix is ready, its vendor is aware, and who deployed it is both a
vendor and a deployer. -/
theorem takes_fix
    (kept : record.WellKept roles abilities)
    (deployed : record.caseState.fixDeployed = true) :
    (record.caseState.vendorAware = true ∧ record.caseState.fixReady = true ∧
        record.caseState.fixDeployed = true) ∧
      roles.vendor = true ∧ roles.deployer = true := by
  have ready := kept.ordered.own.deployed deployed
  have aware := kept.ordered.own.ready ready
  have allowed := kept.authorized.flags .fixDeployed deployed
  exact ⟨⟨aware, ready, deployed⟩, allowed.1⟩

end WellKept
end Record

/--
How a report is closed, after any deliveries and ticks of an actor and whatever is
decided: once, out of one of the three stages that may be closed, and with one
announcement.  If the report had been accepted, then the vendor is aware, and the
fix is ready and deployed; so the actor is both a vendor and a deployer.
-/
theorem report_closes_properly
    (name : String)
    (roles : Roles)
    (abilities : Capabilities)
    (chance : Chance)
    (policy : Policy)
    (events : List Actor.Event) :
    ∃ actor state, Actor.start name roles abilities chance policy = .ok actor ∧
      (actor.play events).state = state ∧
      (state.report = .closed →
        ∃ earlier last,
          state.reportHistory = earlier ++ [last, .closed] ∧
          .closed ∉ earlier ∧
          last ∈ [.invalid, .deferred, .accepted] ∧
          (state.sent.toList.map Message.type).count .reportClosed = 1 ∧
          (last = .accepted →
            (state.caseState.vendorAware = true ∧
                state.caseState.fixReady = true ∧
                state.caseState.fixDeployed = true) ∧
              roles.vendor = true ∧ roles.deployer = true)) := by
  obtain ⟨actor, started, kept⟩ := Actor.exists_recorded
    (fun _ _ => Record.WellKept.entry) (.beginning name roles abilities)
    chance policy events
  refine ⟨actor, _, started, rfl, ?_⟩
  intro ends
  rcases kept.properly with opened | ⟨earlier, last, closed⟩
  · exact absurd ends opened.report
  · have once := (Record.count_closed _).trans closed.said
    exact ⟨earlier, last, closed.history, closed.once, closed.closable, once,
      fun accepted => kept.takes_fix (closed.deployed accepted)⟩

/-- Every decision is taken but the one to defer a report. -/
def Policy.resolute : Policy :=
  .byName fun name => if name = "DeferReport" then .failure else .success

/-- A vendor that deploys its own fixes, with nothing decided yet. -/
def startOfVendor : Except BuildError Actor :=
  let roles := .ofList [.vendor, .deployer]
  Actor.start "vendor" roles (.ofRoles roles) (.ofSeed 132) .resolute

/-- In its fifth tick the vendor closes the report that it discovered. -/
theorem vendor_closes :
    startOfVendor.toOption.map
        (fun actor =>
          let state := (actor.play (.replicate 5 .tick)).state
          (state.report, state.reportHistory)) =
      some (.closed, [.start, .received, .valid, .accepted, .closed]) := by
  decide +kernel

theorem report_closes_properly_of_vendor :
    ∃ actor state, startOfVendor = .ok actor ∧
      (actor.play (.replicate 5 .tick)).state = state ∧
      state.report = .closed ∧
      state.reportHistory = [.start, .received, .valid, .accepted, .closed] ∧
      (state.sent.toList.map Message.type).count .reportClosed = 1 ∧
      state.caseState.vendorAware = true ∧
      state.caseState.fixReady = true ∧
      state.caseState.fixDeployed = true := by
  obtain ⟨actor, state, started, played, proper⟩ := report_closes_properly
    "vendor" (.ofList [.vendor, .deployer])
    (.ofRoles (.ofList [.vendor, .deployer])) (.ofSeed 132) .resolute
    (.replicate 5 .tick)
  have closes := vendor_closes
  rw [startOfVendor, started] at closes
  have both : (state.report, state.reportHistory) =
      (.closed, [.start, .received, .valid, .accepted, .closed]) := by
    rw [← played]
    exact Option.some.inj closes
  have report : state.report = .closed := congrArg Prod.fst both
  have history := congrArg Prod.snd both
  rcases proper report with ⟨earlier, last, closed, _, _, once, fixed⟩
  have accepted : last = .accepted := by
    have ends := (closed.symm.trans history :
      earlier ++ [last, .closed] =
        [.start, .received, .valid] ++ [.accepted, .closed])
    exact (List.cons.inj (List.append_inj' ends rfl).2).1
  exact ⟨actor, state, started, played, report, history, once,
    (fixed accepted).1⟩

end Disclosure
