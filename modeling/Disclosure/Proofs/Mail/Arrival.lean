import Disclosure.Proofs.Mail.Redelivery

/-!
# News do not depend on the order of arrival

From its mail an actor learns that there is a report and how far the case has
come.  That depends on the types of the messages, not on their order, and not on
what is decided about the embargo on the way: where the exit from an embargo is
refused, the news that called for it are answered by an error, but they were heard.
-/

namespace Disclosure

open ActorState Behavior

/-! ## What messages tell -/

/-- The report after mail with messages of some types. -/
def ReportState.informed (types : List MessageType) (state : ReportState) :
    ReportState :=
  if state = .start ∧ .reportSubmission ∈ types then .received else state

/-- The flags of the case after mail with messages of some types. -/
def CaseState.informed (vendor : Bool) (types : List MessageType)
    (state : CaseState) : CaseState :=
  { state with
    vendorAware :=
      state.vendorAware || vendor && types.contains .reportSubmission
    publicAware :=
      state.publicAware || types.contains .publicAware ||
        types.contains .exploitPublished
    exploitPublic := state.exploitPublic || types.contains .exploitPublished
    attacksObserved :=
      state.attacksObserved || types.contains .attacksObserved }

theorem ReportState.informed_cons (type : MessageType)
    (types : List MessageType) (state : ReportState) :
    state.informed (type :: types) = (state.informed [type]).informed types := by
  by_cases started : state = .start
  · by_cases submitted : type = .reportSubmission
    · simp [informed, started, submitted]
    · have other : MessageType.reportSubmission ≠ type := Ne.symm submitted
      simp [informed, started, other]
  · simp [informed, started]

theorem CaseState.informed_cons (vendor : Bool) (type : MessageType)
    (types : List MessageType) (state : CaseState) :
    state.informed vendor (type :: types) =
      (state.informed vendor [type]).informed vendor types := by
  simp [informed, Bool.and_or_distrib_left, Bool.or_assoc, Bool.or_left_comm]

theorem ReportState.informed_perm {types others : List MessageType}
    (same : types.Perm others) (state : ReportState) :
    state.informed types = state.informed others := by
  simp only [informed, same.mem_iff]

theorem CaseState.informed_perm {types others : List MessageType}
    (same : types.Perm others) (vendor : Bool) (state : CaseState) :
    state.informed vendor types = state.informed vendor others := by
  simp only [informed, same.contains_eq]

namespace Position

/-! ## Apart from the embargo -/

/-- Where an actor stands apart from its embargo. -/
def apart (position : Position) :
    Bool × (ReportState × List ReportState) × (CaseState × List CaseState) :=
  (position.vendor, position.report, position.caseState)

theorem apart_endEmbargo (position : Position) :
    position.endEmbargo.apart = position.apart := by
  rw [endEmbargo]
  split <;> rfl

theorem apart_discuss (type : MessageType) (position : Position) :
    (position.discuss type).apart = position.apart := by
  rw [discuss]
  split
  case isTrue => split <;> rfl
  case isFalse => exact apart_endEmbargo position

theorem heed_discusses {type : MessageType} (category : type.category = .embargo)
    (position : Position) :
    (position.heed type).apart = position.apart := by
  simp only [heed, category]
  split
  · rfl
  · exact apart_discuss type position

/-- What a message does apart from the embargo does not depend on the embargo. -/
theorem apart_heed {position other : Position} (type : MessageType)
    (same : position.apart = other.apart) :
    (position.heed type).apart = (other.heed type).apart := by
  rcases position with ⟨vendor, report, embargo, caseState⟩
  rcases other with ⟨_, _, otherEmbargo, _⟩
  obtain ⟨rfl, rfl, rfl⟩ : vendor = _ ∧ report = _ ∧ caseState = _ := by
    simpa [apart] using same
  cases category : type.category with
  | report =>
    simp only [heed, category]
    split
    · simp only [receive, learn, toReport, raise, apart]
      split <;> split <;> rfl
    · rfl
  | embargo => rw [heed_discusses category, heed_discusses category, same]
  | caseState =>
    simp only [heed, category]
    split
    · rw [apart_endEmbargo, apart_endEmbargo, hear.eq_def, hear.eq_def]
      split <;> rfl
    · rfl
  | general => simp only [heed, category, same]

/-! ## What mail tells -/

/-- The report and the case are what messages of some types tell. -/
structure Informed (types : List MessageType) (before after : Position) :
    Prop where
  vendor : after.vendor = before.vendor
  report : after.report.1 = before.report.1.informed types
  caseState :
    after.caseState.1 = before.caseState.1.informed before.vendor types

theorem informed_submission (position : Position) :
    Informed [.reportSubmission] position position.receive.learn := by
  have received : position.receive.report.1 =
      position.report.1.informed [.reportSubmission] := by
    by_cases started : position.report.1 = .start
    · rw [receive, if_pos started, toReport, advance_fst]
      simp [ReportState.informed, started]
    · rw [receive_of_received started]
      simp [ReportState.informed, started]
  have aside : position.receive.vendor = position.vendor ∧
      position.receive.caseState = position.caseState := by
    rw [receive]
    split <;> exact ⟨rfl, rfl⟩
  refine ⟨?_, ?_, ?_⟩
  · rw [← aside.1, learn]
    split <;> rfl
  · rw [learn_report, received]
  · rw [learn, aside.1]
    by_cases vendor : position.vendor = true
    · rw [if_pos vendor, raise, advance_fst, aside.2]
      simp [CaseState.insert, CaseState.informed, vendor]
    · rw [if_neg vendor, aside.2]
      simp [CaseState.informed, vendor]

theorem informed_news {type : MessageType} (news : type ∈ publicNews)
    (position : Position) :
    Informed [type] position (position.hear type) := by
  simp only [publicNews, List.mem_cons, List.not_mem_nil, or_false] at news
  rcases news with rfl | rfl | rfl
  all_goals
    refine ⟨rfl, ?_, ?_⟩
    · simp [hear, raise, ReportState.informed]
    · simp [hear, raise, CaseState.insert, CaseState.informed]

/-- Whoever stands at the same place apart from the embargo is informed as well. -/
theorem Informed.of_apart {types : List MessageType}
    {before after other : Position}
    (informed : Informed types before after)
    (same : other.apart = after.apart) :
    Informed types before other := by
  obtain ⟨vendor, report, caseState⟩ :
      other.vendor = after.vendor ∧ other.report = after.report ∧
        other.caseState = after.caseState := by
    simpa [apart] using same
  refine ⟨vendor.trans informed.vendor, ?_, ?_⟩
  · rw [report, informed.report]
  · rw [caseState, informed.caseState]

/-- Messages of all other types tell nothing. -/
theorem informed_nothing {type : MessageType}
    (noSubmission : type ≠ .reportSubmission)
    (noNews : type ∉ publicNews)
    (position : Position) :
    Informed [type] position position := by
  simp only [publicNews, List.mem_cons, List.not_mem_nil, or_false, not_or]
    at noNews
  obtain ⟨noPublic, noExploit, noAttack⟩ := noNews
  refine ⟨rfl, ?_, ?_⟩
  · simp [ReportState.informed, Ne.symm noSubmission]
  · simp [CaseState.informed, Ne.symm noSubmission, Ne.symm noPublic,
      Ne.symm noExploit, Ne.symm noAttack]

/-- To heed a message is to be informed by it, apart from the embargo. -/
theorem informed_heed (type : MessageType) (position : Position) :
    Informed [type] position (position.heed type) := by
  by_cases submission : type = .reportSubmission
  · subst submission
    exact informed_submission position
  by_cases news : type ∈ publicNews
  · have category : type.category = .caseState := by
      revert news
      cases type <;> decide
    simp only [heed, category, if_pos news]
    exact (informed_news news position).of_apart (apart_endEmbargo _)
  refine (informed_nothing submission news position).of_apart ?_
  cases category : type.category with
  | report => simp only [heed, category, if_neg submission]
  | embargo => exact heed_discusses category position
  | caseState => simp only [heed, category, if_neg news]
  | general => simp only [heed, category]

theorem informed_heedAll (messages : List Message) (position : Position) :
    Informed (messages.map Message.type) position
      (position.heedAll messages) := by
  induction messages generalizing position with
  | nil => exact ⟨rfl, by simp [heedAll, ReportState.informed],
      by simp [heedAll, CaseState.informed]⟩
  | cons message messages ih =>
    have first := informed_heed message.type position
    have rest := ih (position.heed message.type)
    rw [heedAll_cons, List.map_cons]
    refine ⟨rest.vendor.trans first.vendor, ?_, ?_⟩
    · rw [rest.report, first.report, ← ReportState.informed_cons]
    · rw [rest.caseState, first.caseState, first.vendor,
        ← CaseState.informed_cons]

/-- Apart from the embargo, mail does the same wherever the embargo stands. -/
theorem apart_heedAll {position other : Position} (messages : List Message)
    (same : position.apart = other.apart) :
    (position.heedAll messages).apart = (other.heedAll messages).apart := by
  induction messages generalizing position other with
  | nil => exact same
  | cons message messages ih => exact ih (apart_heed message.type same)

end Position

namespace ActorState

/-- Whatever becomes of the embargo, the rest stays. -/
theorem EndsEmbargo.apart {before after : ActorState}
    (ends : EndsEmbargo before after) :
    after.position.apart = before.position.apart := by
  cases ends with
  | nothing => rfl
  | withdraw =>
    rw [announce, position_broadcast, position_moveEmbargo]
    rfl
  | terminate =>
    rw [announce, position_broadcast, position_moveEmbargo, position_decide]
    rfl
  | refused => rfl

end ActorState

namespace Behavior

variable {bound : Nat} {message : Message} {state : ActorState} {name : String}

/-! ## Handling without moving anything but the embargo -/

/-- The actor stays where it is apart from its embargo, with a message in hand. -/
abbrev debating (message : Message) (position : Position) : Course ActorState :=
  .keeping fun state =>
    state.position.apart = position.apart ∧ state.current = some message

/-- Whoever stays where it is does so apart from its embargo. -/
theorem debating_of_staying {behavior : Behavior} {position : Position}
    (stays : ∀ other, (staying message other).Covers bound behavior) :
    (debating message position).Covers bound behavior := by
  rw [Course.covers_keeping_iff]
  rintro state ⟨stands, handled⟩
  apply (Course.covers_keeping_iff.mp (stays state.position) state
    ⟨rfl, handled⟩).mono
  rintro _ after ⟨same, held⟩
  exact ⟨(congrArg Position.apart same).trans stands, held⟩

theorem debating_hears {behavior : Behavior} {position : Position}
    (hears : (hearing true).Covers bound behavior) :
    (debating message position).Covers bound behavior := by
  refine hears.onCourse ?_ ?_ ?_ fun _ _ => trivial
  · exact fun state _ => Policy.settles_anyhow _
  · intro before after muses stays
    rcases muses.exists_eq with ⟨stream, arbiter, rfl⟩
    exact stays
  · rintro before _ _ ⟨_, move, _, _, _, rfl⟩ ⟨stands, handled⟩
    refine ⟨?_, (aside_moveEmbargo before move.target).current.trans handled⟩
    rw [position_moveEmbargo]
    exact stands

theorem debating_avoidNonViable {other : String} {position : Position} :
    (debating message position).Covers bound
      (Spec.sequence other [caseNotQuiet, terminateEmbargo]) := by
  refine .guarded (fun _ _ => ensures_caseNotQuiet) ?_
  rintro state ⟨stands, handled⟩ loud
  rw [Spec.ensures_sequence_singleton]
  apply (ensures_terminateEmbargo (by simpa using loud)).mono
  rintro status after ⟨ends, _⟩
  exact ⟨trivial, .single fun _ =>
    ⟨ends.apart.trans stands, ends.aside.current.trans handled⟩⟩

/-- Talk of an embargo moves nothing else. -/
theorem debating_embargo {position : Position} :
    (debating message position).Covers bound
      (Spec.fallback name (waysOf .embargo)) :=
  .orElse (debating_of_staying fun _ => staying_error)
    (.orElse (debating_hears hears_termination)
      (.orElse (debating_hears hears_rejection)
        (.orElse (debating_hears hears_handleWhileQuiet)
          (.orElse debating_avoidNonViable .nothing))))

/-- What the handler of news tries after the news themselves is of no effect. -/
theorem debating_otherNews {position : Position} :
    (debating message position).Covers bound
      (Spec.fallback name (waysOf .caseState).tail) :=
  debating_of_staying fun _ =>
    .orElse (Course.covers_condition _ _)
      (.orElse (Course.covers_condition _ _)
        (.orElse (Course.covers_condition _ _) (.orElse staying_error .nothing)))

/-! ## Learning from mail -/

/-- What was done about a message has moved the actor as the message does, apart
from its embargo. -/
def Learns (message : Message) (before : ActorState) (_ : Status)
    (after : ActorState) : Prop :=
  after.position.apart = (before.position.heed message.type).apart

theorem learns_of_heeds {behavior : Behavior}
    (heeds : behavior.Ensures bound state (Heeds message state)) :
    behavior.Ensures bound state (Learns message state) :=
  heeds.mono fun _ _ moved => congrArg Position.apart moved

theorem learns_embargo
    (handled : state.current = some message)
    (category : message.type.category = .embargo) :
    (Spec.fallback name (waysOf .embargo)).Ensures bound state
      (Learns message state) := by
  have debates : (debating message state.position).Covers bound
      (Spec.fallback name (waysOf .embargo)) := debating_embargo
  apply (Course.covers_keeping_iff.mp debates state ⟨rfl, handled⟩).mono
  rintro _ after ⟨same, _⟩
  rw [Learns, Position.heed_discusses category]
  exact same

/-- News are heard, whether or not the embargo is ended for them. -/
theorem learns_caseState
    (handled : state.current = some message)
    (category : message.type.category = .caseState) :
    (Spec.fallback name (waysOf .caseState)).Ensures bound state
      (Learns message state) := by
  have others : ∀ {middle : ActorState},
      middle.current = some message →
      (Spec.fallback name (waysOf .caseState).tail).Ensures bound middle
        fun _ after => after.position.apart = middle.position.apart := by
    intro middle held
    have debates : (debating message middle.position).Covers bound
        (Spec.fallback name (waysOf .caseState).tail) := debating_otherNews
    apply (Course.covers_keeping_iff.mp debates middle ⟨rfl, held⟩).mono
    rintro _ after ⟨same, _⟩
    exact same
  by_cases news : message.type ∈ publicNews
  · have heeded : (state.position.heed message.type).apart =
        (state.hearNews message.type).position.apart := by
      simp only [Position.heed, category, if_pos news,
        Position.apart_endEmbargo, position_hearNews]
    rw [waysOf, Spec.ensures_fallback_cons, handlePublicNews,
      Spec.ensures_sequence_cons, ensures_recognizeNews handled, if_pos news,
      if_pos rfl, Spec.ensures_sequence_singleton]
    apply (ensures_terminateEmbargo (hearNews_not_quiet state news)).mono
    rintro status after ⟨ends, _⟩
    have told : after.position.apart =
        (state.position.heed message.type).apart :=
      ends.apart.trans heeded.symm
    split
    · -- the exit was refused, and the other ways are tried in vain
      have held : after.current = some message :=
        ends.aside.current.trans
          ((aside_hearNews state message.type).current.trans handled)
      apply (others held).mono
      intro _ last same
      exact same.trans told
    · exact told
  · apply learns_of_heeds
    apply heeds_of_stays handled
    · simp only [Position.heed, category, if_neg news]
    · exact .orElse (staying_noNews news) (.orElse (Course.covers_condition _ _)
        (.orElse (Course.covers_condition _ _)
          (.orElse (Course.covers_condition _ _)
            (.orElse staying_error .nothing))))

theorem learns_handleMessage
    (handled : state.current = some message) :
    handleMessage.Ensures bound state (Learns message state) := by
  rw [ensures_handleMessage handled]
  by_cases ack : message.type.isAck = true
  · rw [if_pos ack, Learns, Position.heed_of_isAck ack]
  rw [if_neg ack]
  have learns : (Spec.fallback
      ("HandleAckable" ++ shortName message.category ++ "Message")
      (waysOf message.category)).Ensures bound state
        (Learns message state) := by
    cases category : message.category with
    | report => exact learns_of_heeds (heeds_report handled category)
    | embargo => exact learns_embargo handled category
    | caseState => exact learns_caseState handled category
    | general => exact learns_of_heeds (heeds_general handled category)
  apply learns.mono
  intro status middle told
  cases status with
  | success | failure | running => exact told

/-- After some messages the actor is where each of them has moved it, apart from
its embargo. -/
theorem Answering.apart {messages : List Message} {after : ActorState}
    (answering : Answering bound messages state after) :
    after.position.apart = (state.position.heedAll messages).apart := by
  induction answering with
  | done => rfl
  | skip ack _ ih =>
    rw [Position.heedAll_cons, Position.heed_of_isAck ack]
    exact ih
  | @answer message rest state middle after _ handles _ _ ih =>
    have learns : handleMessage.Ensures bound (hold message state)
        (Learns message (hold message state)) := learns_handleMessage rfl
    rw [Tree.ensures_of_run handles] at learns
    rw [Position.heedAll_cons, ih]
    exact Position.apart_heedAll rest learns

end Behavior

/-- A tick of the loop over the inbox leaves the actor with the report and the case
that its mail tells of. -/
theorem BehaviorTree.tick_informed {tree : BehaviorTree Unit ActorState}
    {bound : Nat} (inbox : List Message)
    (receives : tree.root.Hosts receiveMessages)
    (opened : tree.board.report ≠ .closed)
    (free : tree.board.current = none)
    (settles : tree.board.arbiter.policy.Settles false)
    (small : inbox.length < bound) :
    ∃ last, (tree.withInbox inbox).tick bound = .ok (.success, last) ∧
      last.board.report =
        tree.board.report.informed (inbox.map Message.type) ∧
      last.board.caseState = tree.board.caseState.informed
        tree.board.roles.vendor (inbox.map Message.type) := by
  obtain ⟨after, answering, _⟩ :=
    exists_answering bound inbox tree.board opened free settles
  obtain ⟨last, ticked, ends⟩ := answering.tick receives opened free small
  have informed := (Position.informed_heedAll inbox tree.board.position).of_apart
    answering.apart
  refine ⟨last, ticked, ?_⟩
  rw [ends]
  exact ⟨informed.report, informed.caseState⟩

/--
News do not depend on the order of arrival: when no decision is left pending, a tick
of the loop over the inbox ends with a received report if there was none and a
submission is in the mail, and otherwise with the report as it was.  The flags that
are set are those that were set and those that the mail tells of: public awareness
by news of it or of an exploit, an exploit and attacks by news of them, and the
awareness of a vendor by a submission.  So mail in any other order leads to the same
report and the same case.
-/
theorem news_in_any_order
    {tree : BehaviorTree Unit ActorState} {bound : Nat}
    (inbox : List Message)
    (receives : tree.root.Hosts receiveMessages)
    (opened : tree.board.report ≠ .closed)
    (free : tree.board.current = none)
    (settles : tree.board.arbiter.policy.Settles false)
    (small : inbox.length < bound) :
    ∃ last, (tree.withInbox inbox).tick bound = .ok (.success, last) ∧
      last.board.report =
        tree.board.report.informed (inbox.map Message.type) ∧
      last.board.caseState = tree.board.caseState.informed
        tree.board.roles.vendor (inbox.map Message.type) ∧
      ∀ other, inbox.Perm other →
        ∃ twin, (tree.withInbox other).tick bound = .ok (.success, twin) ∧
          twin.board.report = last.board.report ∧
          twin.board.caseState = last.board.caseState := by
  obtain ⟨last, ticked, report, caseState⟩ :=
    BehaviorTree.tick_informed inbox receives opened free settles small
  refine ⟨last, ticked, report, caseState, fun other permuted => ?_⟩
  have smallToo : other.length < bound := by
    rw [← permuted.length_eq]
    exact small
  have types := permuted.map Message.type
  obtain ⟨twin, tickedToo, reportToo, caseStateToo⟩ :=
    BehaviorTree.tick_informed other receives opened free settles smallToo
  refine ⟨twin, tickedToo, ?_, ?_⟩
  · rw [reportToo, report, ReportState.informed_perm types]
  · rw [caseStateToo, caseState, CaseState.informed_perm types]

/-- A vendor that keeps its embargo, whatever becomes public. -/
def stubbornVendor : ActorState :=
  { ActorState.new "vendor" (.ofList [.vendor]) (.ofSeed 0) with
    embargo := .active
    arbiter := .new (.nodding []) }

/-- An exploit, a submission and an attack are told of in two orders, while the
embargo is kept. -/
theorem news_in_any_order_of_stubbornVendor :
    ∃ tree : BehaviorTree Unit ActorState,
      tree.root.Hosts receiveMessages ∧ tree.board = stubbornVendor ∧
      ∃ last twin,
        (tree.withInbox
          [.broadcast .exploitPublished "finder",
           .broadcast .reportSubmission "finder",
           .broadcast .attacksObserved "finder"]).tick 4 =
          .ok (.success, last) ∧
        (tree.withInbox
          [.broadcast .attacksObserved "finder",
           .broadcast .reportSubmission "finder",
           .broadcast .exploitPublished "finder"]).tick 4 =
          .ok (.success, twin) ∧
        last.board.report = .received ∧
        last.board.caseState =
          .ofFlags
            [.vendorAware, .publicAware, .exploitPublic, .attacksObserved] ∧
        twin.board.report = last.board.report ∧
        twin.board.caseState = last.board.caseState := by
  obtain ⟨tree, receives, vendor⟩ :=
    BehaviorTree.exists_hosting proper_receiveMessages stubbornVendor
  have settles : tree.board.arbiter.policy.Settles false := by
    rw [vendor]
    intro number decision stream pending
    cases pending
  obtain ⟨last, ticked, report, caseState, others⟩ := news_in_any_order
    [.broadcast .exploitPublished "finder",
     .broadcast .reportSubmission "finder",
     .broadcast .attacksObserved "finder"]
    receives (by rw [vendor]; decide) (by rw [vendor]; rfl) settles
    (show _ < 4 by decide)
  obtain ⟨twin, tickedToo, same, sameCase⟩ :=
    others _ (List.reverse_perm _).symm
  refine ⟨tree, receives, vendor, last, twin, ticked, tickedToo, ?_, ?_, same,
    sameCase⟩
  · rw [report, vendor]
    rfl
  · rw [caseState, vendor]
    rfl

end Disclosure
