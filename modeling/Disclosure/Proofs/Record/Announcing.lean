import Disclosure.Proofs.Record.Deeds
import Mathlib.Data.List.Destutter

/-!
# What is announced of a report

The verdicts that an actor has announced mirror the stages through which its report
has gone: one verdict for each stage, in the same order.  Only that a report is
invalid may be said several times in a row.  A report is submitted to the whole case
at most once.
-/

namespace Disclosure

/-! ## One element more -/

section Destutter

variable {α : Type} {related : α → α → Prop} [DecidableRel related]

/-- Where only equal neighbours are unrelated, an element at the end is dropped just
when it is unrelated to the one before it. -/
theorem destutter'_concat
    (same : ∀ one other, ¬related one other → one = other)
    (first : α) (items : List α) (new : α) :
    (items ++ [new]).destutter' related first =
      items.destutter' related first ++
        if related (items.getLastD first) new then [new] else [] := by
  induction items generalizing first with
  | nil =>
    by_cases differs : related first new
    · simp [differs]
    · simp [differs]
  | cons item items ih =>
    rw [List.cons_append, List.getLastD_cons]
    by_cases differs : related first item
    · rw [List.destutter'_cons_pos _ differs, List.destutter'_cons_pos _ differs,
        ih, List.cons_append]
    -- An item that is dropped is the same as the one that is kept.
    · rw [List.destutter'_cons_neg _ differs, List.destutter'_cons_neg _ differs,
        ih, same first item differs]

end Destutter

/-! ## Verdicts in a row -/

/-- Every verdict is on one stage only. -/
theorem ReportState.eq_of_verdict {stage other : ReportState} {type : MessageType}
    (first : stage.verdict? = some type)
    (second : other.verdict? = some type) :
    stage = other := by
  cases stage <;> cases first <;> cases other <;> cases second <;> rfl

namespace MessageType

/-- One verdict says something new after another one. -/
def SaysMore (last next : MessageType) : Prop :=
  ¬(last = reportInvalid ∧ next = reportInvalid)

instance : DecidableRel SaysMore := fun last next =>
  inferInstanceAs (Decidable ¬(last = reportInvalid ∧ next = reportInvalid))

/-- Verdicts in which a report is found invalid only once in a row. -/
def collapse (verdicts : List MessageType) : List MessageType :=
  verdicts.destutter SaysMore

theorem eq_of_not_saysMore {last next : MessageType}
    (nothing : ¬SaysMore last next) :
    last = next := by
  rcases not_not.mp nothing with ⟨rfl, rfl⟩
  rfl

/-- The last verdict of all is the last one to be compared with. -/
theorem collapse_concat (first : MessageType) (rest : List MessageType)
    (next : MessageType) :
    collapse (first :: rest ++ [next]) =
      collapse (first :: rest) ++
        if SaysMore (rest.getLastD first) next then [next] else [] :=
  destutter'_concat (fun _ _ => eq_of_not_saysMore) first rest next

theorem collapse_new {verdicts : List MessageType} {next : MessageType}
    (new : verdicts.getLast? ≠ some next) :
    collapse (verdicts ++ [next]) = collapse verdicts ++ [next] := by
  cases verdicts with
  | nil => rfl
  | cons first rest =>
    have more : SaysMore (rest.getLastD first) next := by
      by_contra nothing
      apply new
      rw [List.getLast?_cons, ← List.getLastD_eq_getLast?,
        eq_of_not_saysMore nothing]
    rw [collapse_concat, if_pos more]

theorem collapse_again {verdicts : List MessageType}
    (again : verdicts.getLast? = some .reportInvalid) :
    collapse (verdicts ++ [.reportInvalid]) = collapse verdicts := by
  cases verdicts with
  | nil => cases again
  | cons first rest =>
    rw [List.getLast?_cons, ← List.getLastD_eq_getLast?] at again
    have nothing : ¬SaysMore (rest.getLastD first) .reportInvalid :=
      not_not.mpr ⟨Option.some.inj again, rfl⟩
    rw [collapse_concat, if_neg nothing, List.append_nil]

example :
    collapse [reportInvalid, reportInvalid, reportValid, reportAccepted] =
      [reportInvalid, reportValid, reportAccepted] := by
  decide

end MessageType

/-! ## The mirror -/

namespace Record

/-- The verdicts mirror the history of the report, and a report was submitted to the
whole case at most once: when there was none before. -/
structure Mirrored (record : Record) : Prop where
  verdicts : MessageType.collapse (record.about .verdict) =
    record.reportHistory.filterMap ReportState.verdict?
  last : (record.about .verdict).getLast? = record.report.verdict?
  submissions : record.submissions ≤ if record.report = .start then 0 else 1

namespace Mirrored

variable {record before after : Record} {stage : ReportState}
  {type : MessageType}

/-- Before there is a report, none was submitted. -/
theorem none_submitted
    (mirrored : record.Mirrored)
    (nothing : record.report = .start) :
    record.submissions = 0 := by
  have none := mirrored.submissions
  rw [if_pos nothing] at none
  exact Nat.le_zero.mp none

theorem submissions_le (mirrored : record.Mirrored) : record.submissions ≤ 1 := by
  apply mirrored.submissions.trans
  split
  · exact Nat.zero_le 1
  · exact Nat.le_refl 1

/-- A report is received without a verdict. -/
theorem receive
    (mirrored : record.Mirrored)
    (nothing : record.report = .start) :
    (record.enterStage .received).Mirrored where
  verdicts := by
    change MessageType.collapse (record.about .verdict) =
      (record.reportHistory ++ [ReportState.received]).filterMap
        ReportState.verdict?
    rw [List.filterMap_append, mirrored.verdicts]
    exact (List.append_nil _).symm
  last := by
    change (record.about .verdict).getLast? = none
    rw [mirrored.last, nothing]
    rfl
  submissions := by
    change record.submissions ≤ 1
    rw [mirrored.none_submitted nothing]
    exact Nat.zero_le 1

theorem submit
    (mirrored : record.Mirrored)
    (nothing : record.report = .start) :
    ((record.enterStage .received).say .reportSubmission).Mirrored where
  verdicts := by
    rw [about_say]
    change MessageType.collapse (record.about .verdict ++ []) = _
    rw [List.append_nil]
    exact (mirrored.receive nothing).verdicts
  last := by
    rw [about_say]
    change (record.about .verdict ++ []).getLast? = _
    rw [List.append_nil]
    exact (mirrored.receive nothing).last
  submissions := by
    rw [submissions_say]
    change record.submissions + 1 ≤ 1
    rw [mirrored.none_submitted nothing]

/-- A stage that is announced is another one than the stage before, and so the
verdict on it is a new one. -/
theorem declare
    (mirrored : record.Mirrored)
    (announced : stage.verdict? = some type)
    (allowed : record.report ∈ stage.allowedFrom) :
    ((record.enterStage stage).say type).Mirrored := by
  have topic := ReportState.topic_of_verdict announced
  have saidLast : ((record.enterStage stage).say type).about .verdict =
      record.about .verdict ++ [type] := by
    rw [about_say, if_pos topic]
    rfl
  constructor
  · have new : (record.about .verdict).getLast? ≠ some type := by
      rw [mirrored.last]
      intro same
      have stays := ReportState.eq_of_verdict same announced
      exact (ReportState.ne_of_allowed allowed).1 stays
    rw [saidLast, MessageType.collapse_new new, mirrored.verdicts]
    change _ = (record.reportHistory ++ [stage]).filterMap ReportState.verdict?
    simp [announced]
  · rw [saidLast, List.getLast?_concat]
    exact announced.symm
  · have noSubmission : type ≠ .reportSubmission := by
      rintro rfl
      cases topic
    have begun : stage ≠ .start := by
      rintro rfl
      cases allowed
    rw [submissions_say, if_neg noSubmission]
    change record.submissions ≤ if stage = .start then 0 else 1
    rw [if_neg begun]
    exact mirrored.submissions_le

theorem insist
    (mirrored : record.Mirrored)
    (invalid : record.report = .invalid) :
    (record.say .reportInvalid).Mirrored := by
  have saidLast : (record.say .reportInvalid).about .verdict =
      record.about .verdict ++ [.reportInvalid] :=
    about_say record .verdict .reportInvalid
  have again : (record.about .verdict).getLast? = some .reportInvalid := by
    rw [mirrored.last, invalid]
    rfl
  constructor
  · rw [saidLast, MessageType.collapse_again again]
    exact mirrored.verdicts
  · rw [saidLast, List.getLast?_concat]
    change _ = record.report.verdict?
    rw [invalid]
    rfl
  · rw [submissions_say]
    exact mirrored.submissions

/-- Entries about the report keep the mirror true. -/
theorem reportEntry
    (mirrored : before.Mirrored)
    (entry : ReportEntry before after) :
    after.Mirrored := by
  cases entry with
  | receive nothing => exact mirrored.receive nothing
  | submit nothing => exact mirrored.submit nothing
  | declare announced allowed => exact mirrored.declare announced allowed
  | insist invalid => exact mirrored.insist invalid

theorem leaves
    (mirrored : before.Mirrored)
    (leaves : LeavesReport before after) :
    after.Mirrored where
  verdicts := by
    rw [leaves.verdicts, leaves.history]
    exact mirrored.verdicts
  last := by
    rw [leaves.verdicts, leaves.report]
    exact mirrored.last
  submissions := by
    rw [leaves.submissions, leaves.report]
    exact mirrored.submissions

theorem entry (mirrored : before.Mirrored) (entry : Entry before after) :
    after.Mirrored := by
  rcases entry.report_or_leaves with reported | leaves
  · exact mirrored.reportEntry reported
  · exact mirrored.leaves leaves

theorem beginning (name : String) (roles : Roles) (abilities : Capabilities) :
    (Record.beginning name roles abilities).Mirrored where
  verdicts := rfl
  last := rfl
  submissions := Nat.le_refl 0

end Mirrored
end Record

/-! ## Runs -/

theorem MessageType.topic_eq_verdict_iff (type : MessageType) :
    type.topic = .verdict ↔
      type ∈ [reportInvalid, reportValid, reportDeferred, reportAccepted,
        reportClosed] := by
  cases type <;> decide

/-- The code of a verdict is the code of the stage after an "R". -/
theorem ReportState.codes_of_verdicts (history : List ReportState) :
    (history.filterMap verdict?).map MessageType.code =
      ((history.map code).filter (· ∈ ["I", "V", "D", "A", "C"])).map
        ("R" ++ ·) := by
  induction history with
  | nil => rfl
  | cons stage history ih =>
    cases stage with
    | start | received => exact ih
    | invalid | valid | deferred | accepted | closed =>
      exact congrArg (List.cons _) ih

/--
Announcements mirror the history of the report, after any deliveries and ticks of an
actor and whatever is decided: the verdicts among the messages sent, without
repetitions of an "RI" in a row, have the codes of the stages in the history that a
verdict can be on, in the same order.  At most one message submitted a report to
the whole case.
-/
theorem verdicts_mirror_history
    (name : String)
    (roles : Roles)
    (abilities : Capabilities)
    (chance : Chance)
    (policy : Policy)
    (events : List Actor.Event) :
    ∃ actor state, Actor.start name roles abilities chance policy = .ok actor ∧
      (actor.play events).state = state ∧
      (MessageType.collapse
          ((state.sent.toList.map Message.type).filter
            (· ∈ [.reportInvalid, .reportValid, .reportDeferred,
              .reportAccepted, .reportClosed]))).map MessageType.code =
        ((state.reportHistory.map ReportState.code).filter
          (· ∈ ["I", "V", "D", "A", "C"])).map ("R" ++ ·) ∧
      state.sent.toList.countP (fun message =>
        message.isBroadcast && message.type == .reportSubmission) ≤ 1 := by
  obtain ⟨actor, started, mirrored⟩ := Actor.exists_recorded
    (fun _ _ => Record.Mirrored.entry) (.beginning name roles abilities)
    chance policy events
  refine ⟨actor, _, started, rfl, ?_, mirrored.submissions_le⟩
  rw [← ReportState.codes_of_verdicts]
  have verdicts := mirrored.verdicts
  simp only [Record.about, MessageType.topic_eq_verdict_iff] at verdicts
  exact congrArg (List.map MessageType.code) verdicts

end Disclosure
