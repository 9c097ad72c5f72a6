import Disclosure.Proofs.Protocol.Outreach

/-!
# What is on record about an actor

Of all that an actor knows, its record is the part that others can hold it to:
who it is and what it may do, where it stands, whom it has introduced and what it
has sent.  Few things can happen to a record.  They are its entries, each with the
condition under which it is made: about the report, about the embargo, about the
flags of the case, talk about other messages, and newcomers.

What is said goes with what it is about: an entry that is not about the report
leaves the report alone and says nothing about it, and it is the same with the
case.
-/

namespace Disclosure

/-! ## What messages are about -/

/-- The topics of messages: a report itself, the stages of a report, the terms of
an embargo, the flags of the case, and other messages. -/
inductive Topic where
  | submission
  | verdict
  | terms
  | news
  | talk
  deriving DecidableEq

/-- The topic of each type of message. -/
def MessageType.topic : MessageType → Topic
  | reportSubmission => .submission
  | reportInvalid => .verdict
  | reportValid => .verdict
  | reportDeferred => .verdict
  | reportAccepted => .verdict
  | reportClosed => .verdict
  | embargoProposal => .terms
  | embargoRejected => .terms
  | embargoAccepted => .terms
  | revisionProposal => .terms
  | revisionRejected => .terms
  | revisionAccepted => .terms
  | embargoTerminated => .terms
  | vendorAware => .news
  | fixReady => .news
  | fixDeployed => .news
  | publicAware => .news
  | exploitPublished => .news
  | attacksObserved => .news
  | _ => .talk

theorem EmbargoMove.topic_announcement (move : EmbargoMove) :
    move.announcement.topic = .terms := by
  cases move <;> rfl

theorem MessageCategory.topic_reply (category : MessageCategory) :
    category.ack.topic = .talk ∧ category.error.topic = .talk := by
  cases category <;> decide

namespace CaseFlag

/-- The news that a flag of the case was set. -/
def news : CaseFlag → MessageType
  | vendorAware => .vendorAware
  | fixReady => .fixReady
  | fixDeployed => .fixDeployed
  | publicAware => .publicAware
  | exploitPublic => .exploitPublished
  | attacksObserved => .attacksObserved

theorem topic_news (flag : CaseFlag) : flag.news.topic = .news := by
  cases flag <;> rfl

theorem news_injective : Function.Injective news := by
  intro flag other same
  cases flag <;> cases other <;> first | rfl | cases same

/-- The flag is on the side of the public and not on that of the vendor. -/
def isPublic : CaseFlag → Bool
  | publicAware => true
  | exploitPublic => true
  | attacksObserved => true
  | _ => false

end CaseFlag

namespace ReportState

/-- The announcement that the report has come to a stage.  To have no report, or
to have just received one, is not announced. -/
def verdict? : ReportState → Option MessageType
  | start => none
  | received => none
  | invalid => some .reportInvalid
  | valid => some .reportValid
  | deferred => some .reportDeferred
  | accepted => some .reportAccepted
  | closed => some .reportClosed

theorem topic_of_verdict {stage : ReportState} {type : MessageType}
    (announced : stage.verdict? = some type) :
    type.topic = .verdict := by
  cases stage <;> cases announced <;> rfl

/-- No stage is reached from itself, and none from the last one. -/
theorem ne_of_allowed {before after : ReportState}
    (allowed : before ∈ after.allowedFrom) :
    before ≠ after ∧ before ≠ .closed := by
  revert allowed
  cases before <;> cases after <;> decide

end ReportState

/-! ## Records -/

/-- What others can hold an actor to. -/
structure Record where
  name : String
  roles : Roles
  abilities : Capabilities
  report : ReportState
  reportHistory : List ReportState
  embargo : EmbargoState
  caseState : CaseState
  introduced : List Participant
  sent : List Message

/-- The record of an actor. -/
def ActorState.record (state : ActorState) : Record where
  name := state.name
  roles := state.roles
  abilities := state.abilities
  report := state.report
  reportHistory := state.reportHistory
  embargo := state.embargo
  caseState := state.caseState
  introduced := state.introduced.toList
  sent := state.sent.toList

namespace Record

/-- The record of an actor that has not heard of anything. -/
def beginning (name : String) (roles : Roles) (abilities : Capabilities) :
    Record where
  name := name
  roles := roles
  abilities := abilities
  report := .start
  reportHistory := [.start]
  embargo := .noEmbargo
  caseState := .initial
  introduced := []
  sent := []

/-- The types of all messages that were ever sent. -/
def said (record : Record) : List MessageType :=
  record.sent.map Message.type

/-- The types of all messages about a topic that were ever sent. -/
def about (topic : Topic) (record : Record) : List MessageType :=
  record.said.filter fun type => type.topic = topic

/-- How often a report was submitted to the whole case. -/
def submissions (record : Record) : Nat :=
  record.sent.countP fun message =>
    message.isBroadcast && message.type == .reportSubmission

/-- Send a message of a type to the whole case. -/
def say (type : MessageType) (record : Record) : Record :=
  { record with sent := record.sent ++ [.broadcast type record.name] }

/-- Bring the report to another stage. -/
def enterStage (stage : ReportState) (record : Record) : Record :=
  { record with
    report := stage, reportHistory := record.reportHistory ++ [stage] }

/-- Make a move of embargo management. -/
def moveEmbargo (move : EmbargoMove) (record : Record) : Record :=
  { record with embargo := move.target }

/-- Set a flag of the case. -/
def note (flag : CaseFlag) (record : Record) : Record :=
  { record with caseState := record.caseState.insert flag }

/-- Send the report to a newcomer and introduce it. -/
def welcome (newcomer : Participant) (record : Record) : Record :=
  { record with
    introduced := record.introduced ++ [newcomer]
    sent := record.sent ++ [ActorState.firstReport record.name newcomer.name] }

section Said

variable (record : Record)

theorem said_say (type : MessageType) :
    (record.say type).said = record.said ++ [type] := by
  simp [said, say, Message.broadcast]

theorem about_say (topic : Topic) (type : MessageType) :
    (record.say type).about topic =
      record.about topic ++ if type.topic = topic then [type] else [] := by
  rw [about, said_say, List.filter_append]
  by_cases same : type.topic = topic
  · simp [about, same]
  · simp [about, same]

/-- All messages of a type are about its topic. -/
theorem count_about (type : MessageType) :
    (record.about type.topic).count type = record.said.count type :=
  List.count_filter (by simp)

theorem submissions_say (type : MessageType) :
    (record.say type).submissions =
      record.submissions + if type = .reportSubmission then 1 else 0 := by
  by_cases same : type = .reportSubmission
  · simp [submissions, say, Message.broadcast, Message.isBroadcast, same]
  · simp [submissions, say, Message.broadcast, Message.isBroadcast, same]

theorem about_welcome (topic : Topic) (newcomer : Participant)
    (other : topic ≠ .submission) :
    (record.welcome newcomer).about topic = record.about topic := by
  simp [about, said, welcome, ActorState.firstReport, MessageType.topic,
    other.symm]

/-- What is sent to one party is no submission to the whole case. -/
theorem submissions_welcome (newcomer : Participant) :
    (record.welcome newcomer).submissions = record.submissions := by
  simp [submissions, welcome, ActorState.firstReport, Message.isBroadcast]

end Said

/-- When an actor may set a flag of the case and send the news of it. -/
def Warrants (record : Record) : CaseFlag → Prop
  | .vendorAware =>
    record.roles.vendor = true ∧ record.caseState.vendorAware = false
  | .fixReady =>
    (record.roles.vendor = true ∧ record.abilities.developFix = true) ∧
      record.caseState.vendorHasFix = false ∧
      (record.caseState.fixReady = true ∨
        record.caseState.vendorAware = true)
  | .fixDeployed =>
    (record.roles.deployer = true ∧ record.abilities.deployFix = true) ∧
      record.caseState.vendorHasFix = true ∧
      record.caseState.fixDeployed = false
  | .publicAware => True
  | .exploitPublic =>
    record.caseState.publicAware = true ∧
      record.caseState.exploitPublic = false
  | .attacksObserved => record.caseState.attacksObserved = false

end Record

/-! ## Entries -/

/-- Entries about the report. -/
inductive ReportEntry : Record → Record → Prop
  /-- A report arrives. -/
  | receive {record : Record} (nothing : record.report = .start) :
    ReportEntry record (record.enterStage .received)
  /-- The actor finds something to report itself. -/
  | submit {record : Record} (nothing : record.report = .start) :
    ReportEntry record ((record.enterStage .received).say .reportSubmission)
  /-- The report comes to a stage, and this is announced. -/
  | declare {record : Record} {stage : ReportState} {type : MessageType}
      (announced : stage.verdict? = some type)
      (allowed : record.report ∈ stage.allowedFrom)
      (deployed : stage = .closed → record.report = .accepted →
        record.caseState.fixDeployed = true) :
    ReportEntry record ((record.enterStage stage).say type)
  /-- A report that was found invalid is found invalid once more. -/
  | insist {record : Record} (invalid : record.report = .invalid) :
    ReportEntry record (record.say .reportInvalid)

/-- Entries about the embargo. -/
inductive EmbargoEntry : Record → Record → Prop
  /-- A move that somebody else has announced. -/
  | follow {record : Record} {move : EmbargoMove}
      (starts : record.embargo ∈ move.starts) :
    EmbargoEntry record (record.moveEmbargo move)
  /-- A move by the actor itself. -/
  | announce {record : Record} {move : EmbargoMove}
      (starts : record.embargo ∈ move.starts) :
    EmbargoEntry record ((record.moveEmbargo move).say move.announcement)

/-- Entries about the flags of the case. -/
inductive CaseEntry : Record → Record → Prop
  /-- Something became public, and somebody else has said so. -/
  | hear {record : Record} {flag : CaseFlag}
      (others : flag.isPublic = true)
      (known : flag = .exploitPublic →
        record.caseState.publicAware = true) :
    CaseEntry record (record.note flag)
  /-- With an exploit, the vulnerability has become public as well. -/
  | expose (record : Record) :
    CaseEntry record
      (((record.note .exploitPublic).note .publicAware).say .publicAware)
  /-- A flag is set, and this is announced. -/
  | raise {record : Record} {flag : CaseFlag}
      (warranted : record.Warrants flag) :
    CaseEntry record ((record.note flag).say flag.news)

/-- What can happen to the record of an actor. -/
inductive Entry : Record → Record → Prop
  | report {before after : Record} (entry : ReportEntry before after) :
    Entry before after
  | embargo {before after : Record} (entry : EmbargoEntry before after) :
    Entry before after
  | caseState {before after : Record} (entry : CaseEntry before after) :
    Entry before after
  /-- A message is answered or asked back about. -/
  | talk {record : Record} {type : MessageType}
      (talks : type.topic = .talk) :
    Entry record (record.say type)
  /-- A newcomer is told of the public side of the case. -/
  | welcome {record : Record} {newcomer : Participant}
      (briefed : newcomer.state = record.caseState.publicPart) :
    Entry record (record.welcome newcomer)

/-- Any number of entries. -/
abbrev Entries : Record → Record → Prop :=
  Relation.ReflTransGen Entry

/-- What every entry preserves, any number of entries preserves. -/
theorem Entries.preserves {property : Record → Prop}
    (kept : ∀ before after, property before → Entry before after →
      property after)
    {before after : Record}
    (entries : Entries before after)
    (holds : property before) :
    property after := by
  induction entries with
  | refl => exact holds
  | tail _ entry ih => exact kept _ _ ih entry

/-! ## What entries leave alone -/

namespace Record

/-- The report stays where it is, and nothing is said about it. -/
structure LeavesReport (before after : Record) : Prop where
  report : after.report = before.report
  history : after.reportHistory = before.reportHistory
  verdicts : after.about .verdict = before.about .verdict
  submissions : after.submissions = before.submissions

/-- The case stays as it is, and there is no news of it. -/
structure LeavesCase (before after : Record) : Prop where
  caseState : after.caseState = before.caseState
  news : after.about .news = before.about .news

variable {record before middle after : Record} {type : MessageType}

theorem LeavesReport.say
    (leaves : LeavesReport before after)
    (other : type.topic ∉ [.submission, .verdict]) :
    LeavesReport before (after.say type) where
  report := leaves.report
  history := leaves.history
  verdicts := by
    have noVerdict : type.topic ≠ .verdict := by simp_all
    rw [about_say, if_neg noVerdict, List.append_nil]
    exact leaves.verdicts
  submissions := by
    have noSubmission : type ≠ .reportSubmission := by
      rintro rfl
      exact other (by decide)
    rw [submissions_say, if_neg noSubmission]
    exact leaves.submissions

theorem LeavesCase.say
    (leaves : LeavesCase before after)
    (other : type.topic ≠ .news) :
    LeavesCase before (after.say type) where
  caseState := leaves.caseState
  news := by
    rw [about_say, if_neg other, List.append_nil]
    exact leaves.news

end Record

open Record

variable {before after : Record}

theorem ReportEntry.leavesCase (entry : ReportEntry before after) :
    LeavesCase before after := by
  cases entry with
  | receive => exact ⟨rfl, rfl⟩
  | submit => exact LeavesCase.say ⟨rfl, rfl⟩ (by decide)
  | declare announced =>
    have topic := ReportState.topic_of_verdict announced
    exact LeavesCase.say ⟨rfl, rfl⟩ (by simp [topic])
  | insist => exact LeavesCase.say ⟨rfl, rfl⟩ (by decide)

theorem EmbargoEntry.leavesReport (entry : EmbargoEntry before after) :
    LeavesReport before after := by
  cases entry with
  | follow => exact ⟨rfl, rfl, rfl, rfl⟩
  | @announce move =>
    have topic := move.topic_announcement
    exact LeavesReport.say ⟨rfl, rfl, rfl, rfl⟩ (by simp [topic])

theorem EmbargoEntry.leavesCase (entry : EmbargoEntry before after) :
    LeavesCase before after := by
  cases entry with
  | follow => exact ⟨rfl, rfl⟩
  | @announce move =>
    have topic := move.topic_announcement
    exact LeavesCase.say ⟨rfl, rfl⟩ (by simp [topic])

theorem CaseEntry.leavesReport (entry : CaseEntry before after) :
    LeavesReport before after := by
  cases entry with
  | hear => exact ⟨rfl, rfl, rfl, rfl⟩
  | expose => exact LeavesReport.say ⟨rfl, rfl, rfl, rfl⟩ (by decide)
  | @raise flag =>
    have topic := flag.topic_news
    exact LeavesReport.say ⟨rfl, rfl, rfl, rfl⟩ (by simp [topic])

namespace Entry

/-- What is not about the report leaves the report alone. -/
theorem report_or_leaves (entry : Entry before after) :
    ReportEntry before after ∨ LeavesReport before after := by
  cases entry with
  | report entry => exact .inl entry
  | embargo entry => exact .inr entry.leavesReport
  | caseState entry => exact .inr entry.leavesReport
  | talk talks =>
    exact .inr (LeavesReport.say ⟨rfl, rfl, rfl, rfl⟩ (by simp [talks]))
  | welcome =>
    exact .inr ⟨rfl, rfl, about_welcome _ _ _ (by decide),
      submissions_welcome _ _⟩

/-- What is not about the case leaves the case alone. -/
theorem case_or_leaves (entry : Entry before after) :
    CaseEntry before after ∨ LeavesCase before after := by
  cases entry with
  | report entry => exact .inr entry.leavesCase
  | embargo entry => exact .inr entry.leavesCase
  | caseState entry => exact .inl entry
  | talk talks => exact .inr (LeavesCase.say ⟨rfl, rfl⟩ (by simp [talks]))
  | welcome => exact .inr ⟨rfl, about_welcome _ _ _ (by decide)⟩

/-- Flags are never taken back. -/
theorem keepsFlag (entry : Entry before after) {flag : CaseFlag}
    (has : before.caseState.has flag = true) :
    after.caseState.has flag = true := by
  rcases entry.case_or_leaves with entry | leaves
  · cases entry with
    | hear => simp [note, has]
    | expose => simp [note, say, has]
    | raise => simp [note, say, has]
  · rw [leaves.caseState]
    exact has

/-- Nothing changes what an actor is and what it may do. -/
theorem sameOffice (entry : Entry before after) :
    after.roles = before.roles ∧ after.abilities = before.abilities := by
  cases entry with
  | report entry | embargo entry | caseState entry =>
    cases entry <;> exact ⟨rfl, rfl⟩
  | talk | welcome => exact ⟨rfl, rfl⟩

/-- Newcomers are told of the public side of the case. -/
theorem told (entry : Entry before after) :
    ∀ newcomer ∈ after.introduced, newcomer ∈ before.introduced ∨
      newcomer.state = before.caseState.publicPart := by
  intro newcomer among
  cases entry with
  | report entry | embargo entry | caseState entry =>
    cases entry <;> exact .inl among
  | talk => exact .inl among
  | welcome briefed =>
    rcases List.mem_append.mp among with earlier | new
    · exact .inl earlier
    · rw [List.mem_singleton.mp new]
      exact .inr briefed

end Entry

end Disclosure
