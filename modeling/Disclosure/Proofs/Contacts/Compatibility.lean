import Disclosure.Proofs.Protocol.Outreach
import Disclosure.Proofs.Protocol.Proper
import Disclosure.Proofs.Tree.Hosting

/-!
# Newcomers and the embargo they join under

Before an actor tells somebody else about a case it looks at the embargo.  Under
an active embargo it asks whether the policy of the newcomer is compatible with
it, and tells nobody without a yes.  After an embargo nobody is told.  In all
other states the actor does not ask: not where nothing is agreed, and not while
the embargo is being revised either, although it is in force then.  There the
question stands behind an alternative that accepts the state without asking.
-/

namespace Disclosure

/-- What telling others comes to: answers, messages and newcomers. -/
structure Outreach where
  answers : List Answer
  messages : List Message
  newcomers : List Participant

/-- The name of the question whether a newcomer can live with the embargo. -/
def compatibilityQuestion : String := "PolicyCompatible"

namespace Outreach

/-- Somebody got the report directly, or has joined the case. -/
def Invites (outreach : Outreach) : Prop :=
  (∃ message ∈ outreach.messages, message.type = .reportSubmission ∧
      message.recipient.isSome = true) ∨
    outreach.newcomers ≠ []

/-- It was asked whether the newcomer is compatible, and the answer was yes. -/
def Compatible (outreach : Outreach) : Prop :=
  ∃ answer ∈ outreach.answers,
    answer.decision.name = compatibilityQuestion ∧ answer.outcome = .success

/-- It was not asked whether the newcomer is compatible. -/
def Unasked (outreach : Outreach) : Prop :=
  ∀ answer ∈ outreach.answers, answer.decision.name ≠ compatibilityQuestion

/-- Under the embargo others may be told. -/
def Permitted (outreach : Outreach) : EmbargoState → Prop
  | .active => outreach.Compatible
  | .exited => False
  | _ => True

/-- Nobody was told against the embargo, or asked without need. -/
structure Heeds (outreach : Outreach) (embargo : EmbargoState) : Prop where
  permitted : outreach.Invites → outreach.Permitted embargo
  unasked : embargo ≠ .active → outreach.Unasked

/-- All that was answered, sent and joined between two states. -/
structure Leads (outreach : Outreach) (before after : ActorState) : Prop where
  embargo : after.embargo = before.embargo
  answers : after.arbiter.record.toList =
    before.arbiter.record.toList ++ outreach.answers
  messages : after.sent.toList = before.sent.toList ++ outreach.messages
  newcomers : after.roster.participants =
    before.roster.participants ++ outreach.newcomers

theorem Compatible.not_unasked {outreach : Outreach}
    (compatible : outreach.Compatible) :
    ¬ outreach.Unasked := by
  intro unasked
  obtain ⟨answer, among, named, _⟩ := compatible
  exact unasked answer among named

/-! ## One more answer, message or newcomer -/

/-- The same outreach after one more answer. -/
def hear (answer : Answer) (outreach : Outreach) : Outreach :=
  { outreach with answers := outreach.answers ++ [answer] }

theorem Permitted.hear {outreach : Outreach} {embargo : EmbargoState}
    (permitted : outreach.Permitted embargo) (answer : Answer) :
    (outreach.hear answer).Permitted embargo := by
  cases embargo with
  | active =>
    obtain ⟨earlier, among, granted⟩ := permitted
    exact ⟨earlier, List.mem_append_left _ among, granted⟩
  | exited => exact permitted
  | noEmbargo | proposed | revise => trivial

/-- Under an active embargo anything may be asked, elsewhere anything but
compatibility. -/
theorem Heeds.hear {outreach : Outreach} {embargo : EmbargoState}
    (heeds : outreach.Heeds embargo) {answer : Answer}
    (proper : embargo ≠ .active →
      answer.decision.name ≠ compatibilityQuestion) :
    (outreach.hear answer).Heeds embargo where
  permitted invites := (heeds.permitted invites).hear answer
  unasked elsewhere := by
    intro asked among
    rcases List.mem_append.mp among with earlier | last
    · exact heeds.unasked elsewhere asked earlier
    · rw [List.mem_singleton.mp last]
      exact proper elsewhere

/-- The same outreach after more messages and newcomers. -/
def tell (messages : List Message) (newcomers : List Participant)
    (outreach : Outreach) : Outreach :=
  { outreach with
    messages := outreach.messages ++ messages
    newcomers := outreach.newcomers ++ newcomers }

theorem Permitted.tell {outreach : Outreach} {embargo : EmbargoState}
    (permitted : outreach.Permitted embargo)
    (messages : List Message) (newcomers : List Participant) :
    (outreach.tell messages newcomers).Permitted embargo := by
  cases embargo <;> exact permitted

/-- Where others may be told, there is nothing wrong with telling more. -/
theorem Heeds.tell {outreach : Outreach} {embargo : EmbargoState}
    (heeds : outreach.Heeds embargo)
    (permitted : outreach.Permitted embargo)
    (messages : List Message) (newcomers : List Participant) :
    (outreach.tell messages newcomers).Heeds embargo where
  permitted _ := permitted.tell messages newcomers
  unasked := heeds.unasked

end Outreach

namespace ActorState

variable {start state : ActorState} {cleared : Prop}

/-- All that has happened from a start on heeds the embargo; and once telling is
cleared, it is also permitted. -/
def Tracks (start : ActorState) (cleared : Prop) (state : ActorState) : Prop :=
  ∃ outreach : Outreach, outreach.Leads start state ∧
    outreach.Heeds start.embargo ∧
    (cleared → outreach.Permitted start.embargo)

theorem tracks_self (start : ActorState) : Tracks start False start := by
  refine ⟨⟨[], [], []⟩, ⟨rfl, by simp, by simp, by simp⟩, ⟨?_, ?_⟩, False.elim⟩
  · rintro (⟨_, among, _⟩ | joined)
    · cases among
    · exact (joined rfl).elim
  · intro _ _ among
    cases among

theorem Tracks.weaken {other : Prop} (tracks : Tracks start cleared state)
    (weaker : other → cleared) :
    Tracks start other state := by
  obtain ⟨outreach, leads, heeds, permitted⟩ := tracks
  exact ⟨outreach, leads, heeds, fun holds => permitted (weaker holds)⟩

/-- What is not answered, sent or joined leaves no trace. -/
theorem Tracks.frame {after : ActorState} (tracks : Tracks start cleared state)
    (embargo : after.embargo = state.embargo)
    (record : after.arbiter = state.arbiter)
    (sent : after.sent = state.sent)
    (participants :
      after.roster.participants = state.roster.participants) :
    Tracks start cleared after := by
  obtain ⟨outreach, leads, rest⟩ := tracks
  refine ⟨outreach, ⟨?_, ?_, ?_, ?_⟩, rest⟩
  · rw [embargo, leads.embargo]
  · rw [record, leads.answers]
  · rw [sent, leads.messages]
  · rw [participants, leads.newcomers]

/-- An answer is the last one on the record. -/
theorem leads_decide {outreach : Outreach} (decision : Decision)
    (leads : outreach.Leads start state) :
    (outreach.hear ⟨decision, (state.decide decision).1⟩).Leads start
      (state.decide decision).2 where
  embargo := leads.embargo
  answers := by
    rw [Outreach.hear, ← List.append_assoc, ← leads.answers]
    exact Array.toList_push
  messages := leads.messages
  newcomers := leads.newcomers

/-- Any other question may be asked. -/
theorem Tracks.ask (tracks : Tracks start cleared state) {decision : Decision}
    (other : decision.name ≠ compatibilityQuestion) :
    Tracks start cleared (state.decide decision).2 := by
  obtain ⟨outreach, leads, heeds, permitted⟩ := tracks
  exact ⟨_, leads_decide decision leads, heeds.hear fun _ => other,
    fun holds => (permitted holds).hear _⟩

/-- Under an active embargo, a yes to the question clears the telling. -/
theorem Tracks.askCompatible (tracks : Tracks start False state)
    (active : state.embargo = .active) {decision : Decision}
    (asked : decision.name = compatibilityQuestion) :
    Tracks start ((state.decide decision).1 = .success)
      (state.decide decision).2 := by
  obtain ⟨outreach, leads, heeds, _⟩ := tracks
  have activeFirst : start.embargo = .active := leads.embargo ▸ active
  refine ⟨_, leads_decide decision leads,
    heeds.hear fun elsewhere => (elsewhere activeFirst).elim, fun granted => ?_⟩
  rw [activeFirst]
  exact ⟨_, List.mem_append_right _ (List.mem_singleton_self _), asked, granted⟩

/-- Where nobody has to be asked, telling is cleared from the beginning. -/
theorem Tracks.clear (tracks : Tracks start cleared state)
    (free : state.embargo ∈ [.noEmbargo, .proposed, .revise]) :
    Tracks start True state := by
  rcases tracks with ⟨outreach, leads, heeds, _⟩
  refine ⟨outreach, leads, heeds, fun _ => ?_⟩
  rw [leads.embargo] at free
  simp only [List.mem_cons, List.not_mem_nil, or_false] at free
  rcases free with free | free | free <;> rw [free] <;> trivial

/-- Once it is cleared, messages may be sent and newcomers may join. -/
theorem Tracks.tell {after : ActorState} (tracks : Tracks start True state)
    {messages : List Message} {newcomers : List Participant}
    (embargo : after.embargo = state.embargo)
    (record : after.arbiter = state.arbiter)
    (sent : after.sent.toList = state.sent.toList ++ messages)
    (participants : after.roster.participants =
      state.roster.participants ++ newcomers) :
    Tracks start True after := by
  obtain ⟨outreach, leads, heeds, permitted⟩ := tracks
  have permittedNow := permitted trivial
  refine ⟨outreach.tell messages newcomers, ⟨?_, ?_, ?_, ?_⟩,
    heeds.tell permittedNow _ _, fun _ => permittedNow.tell _ _⟩
  · rw [embargo, leads.embargo]
  · rw [record, leads.answers]
    rfl
  · rw [sent, leads.messages, List.append_assoc]
    rfl
  · rw [participants, leads.newcomers, List.append_assoc]
    rfl

/-! ## What changes of an actor count -/

theorem Tracks.injectCandidate (tracks : Tracks start cleared state)
    (kind : String) (roles : Roles) :
    Tracks start cleared (state.injectCandidate kind roles) :=
  tracks.frame rfl rfl rfl rfl

theorem Tracks.removeRecipient (tracks : Tracks start cleared state) :
    Tracks start cleared state.removeRecipient := by
  rw [ActorState.removeRecipient]
  split
  · exact tracks
  · exact tracks.frame rfl rfl rfl rfl

theorem Tracks.chooseRecipient (tracks : Tracks start cleared state) :
    Tracks start cleared state.chooseRecipient.2 := by
  rw [ActorState.chooseRecipient]
  split
  · exact tracks
  · exact tracks.frame rfl rfl rfl rfl

theorem Tracks.reportToRecipient (tracks : Tracks start True state) :
    Tracks start True state.reportToRecipient.2 := by
  rw [ActorState.reportToRecipient]
  split
  · exact tracks
  · exact tracks.tell rfl rfl Array.toList_push (List.append_nil _).symm

theorem Tracks.briefRecipient (tracks : Tracks start cleared state) :
    Tracks start cleared state.briefRecipient.2 := by
  rw [ActorState.briefRecipient]
  split
  · exact tracks.frame rfl rfl rfl rfl
  · exact tracks

theorem Tracks.connectRecipient (tracks : Tracks start True state) :
    Tracks start True state.connectRecipient.2 := by
  rw [ActorState.connectRecipient]
  split
  case h_1 name candidate _ _ =>
    simp only [Roster.engage]
    split
    · exact tracks.tell rfl rfl (List.append_nil _).symm (List.append_nil _).symm
    · exact tracks.tell rfl rfl (List.append_nil _).symm rfl
  case h_2 => exact tracks.frame rfl rfl rfl rfl

end ActorState

namespace Behavior

open ActorState Course

variable {bound : Nat} {start : ActorState} {cleared : Prop}

/-- Whatever happens is accounted for. -/
abbrev tracking (start : ActorState) (cleared : Prop) : Course ActorState :=
  .keeping (Tracks start cleared)

theorem tracking_decision {name : String} {weight : Weight}
    (other : name ≠ compatibilityQuestion) :
    (tracking start cleared).Covers bound (Spec.decision name weight) :=
  covers_decision fun _ _ => ⟨trivial, fun tracks => tracks.ask other⟩

theorem tracking_identify {kind : String} {more : Weight} {roles : Roles}
    (other : "More" ++ kind ++ "s" ≠ compatibilityQuestion) :
    (tracking start cleared).Covers bound (identify kind more roles) := by
  refine .forceSuccess (.andThen (tracking_decision other)
    (.andThen (Course.covers_effect ?_) .done))
  intro state _
  exact .single fun tracks => tracks.injectCandidate kind roles

theorem tracking_identifyParticipants :
    (tracking start cleared).Covers bound identifyParticipants := by
  refine .orElse (tracking_decision (by decide)) (.orElse (.sequence ?_)
    .nothing)
  simp only [List.forall_mem_cons, List.not_mem_nil, false_imp_iff,
    implies_true, and_true]
  exact ⟨tracking_identify (by decide), tracking_identify (by decide),
    tracking_identify (by decide)⟩

theorem tracking_pruneRecipients :
    (tracking start cleared).Covers bound pruneRecipients := by
  refine .andThen (.orElse (covers_condition _ _)
    (.orElse (tracking_decision (by decide)) .nothing))
    (.andThen (Course.covers_effect ?_) .done)
  intro state _
  exact .single fun tracks => tracks.removeRecipient

/-- The gate: whoever passes it is cleared to tell others. -/
theorem ensures_gate {state : ActorState} (tracks : Tracks start False state) :
    ensureOkToNotify.Ensures bound state fun status after =>
      Tracks start (status = .success) after := by
  rw [ensureOkToNotify, Spec.ensures_fallback_cons, ensures_embargoOpen]
  by_cases free : state.embargo ∈ [.noEmbargo, .proposed, .revise]
  · rw [decide_eq_true free, if_neg (by decide)]
    exact (tracks.clear free).weaken fun _ => trivial
  · rw [decide_eq_false free, if_pos (by rfl), Spec.ensures_fallback_singleton,
      Spec.ensures_sequence_cons, ensures_embargoInForce]
    by_cases inForce : state.embargo ∈ [.active, .revise]
    · rw [decide_eq_true inForce, if_pos (by rfl),
        Spec.ensures_sequence_singleton, Spec.ensures_decision]
      have active : state.embargo = .active := by
        simp only [List.mem_cons, List.not_mem_nil] at free inForce
        tauto
      exact tracks.askCompatible active rfl
    · rw [decide_eq_false inForce, if_neg (by decide)]
      exact tracks.weaken (by simp [Status.ofBool])

theorem tracking_engage :
    (tracking start True).Covers bound
      (Spec.sequence "EngageParticipant"
        [.action "ReportToNewParticipant" ActorState.reportToRecipient,
         .action "BringNewParticipantUpToSpeed" ActorState.briefRecipient,
         .action "ConnectNewParticipantToCase"
          ActorState.connectRecipient]) := by
  refine .andThen (covers_action ?_) (.andThen (covers_action ?_)
    (.andThen (covers_action ?_) .done))
  · exact fun _ _ => ⟨trivial, .single Tracks.reportToRecipient⟩
  · exact fun _ _ => ⟨trivial, .single Tracks.briefRecipient⟩
  · exact fun _ _ => ⟨trivial, .single Tracks.connectRecipient⟩

/-- Who is told has been cleared at the gate. -/
theorem tracking_notifyRecipient :
    (tracking start False).Covers bound notifyRecipient := by
  rw [covers_keeping_iff]
  intro state tracks
  rw [notifyRecipient, Spec.ensures_sequence_cons]
  apply (ensures_gate tracks).mono
  intro status middle gated
  by_cases passed : status = .success
  · rw [if_pos passed]
    have cleared : Tracks start True middle := gated.weaken fun _ => passed
    refine Tree.Ensures.mono (covers_keeping_iff.mp
      (.andThen (tracking_decision (by decide))
        (.andThen tracking_engage .done)) middle cleared) ?_
    intro _ after told
    exact told.weaken False.elim
  · rw [if_neg passed]
    exact gated.weaken False.elim

theorem tracking_notifyOthers :
    (tracking start False).Covers bound notifyOthers := by
  refine .orElse (tracking_decision (by decide)) (.orElse
    (.andThen (covers_action ?choose) (.andThen
      (.orElse tracking_pruneRecipients (.orElse tracking_notifyRecipient
        .nothing))
      .done))
    .nothing)
  exact fun _ _ => ⟨trivial, .single Tracks.chooseRecipient⟩

/-- A tick of telling others heeds the embargo that it begins under. -/
theorem tracking_reportToOthers :
    (tracking start False).Covers bound reportToOthers :=
  .andThen (covers_condition _ _) (.andThen
    (.orElse (covers_condition _ _) (.orElse
      (.andThen tracking_identifyParticipants
        (.andThen tracking_notifyOthers .done))
      .nothing))
    .done)

end Behavior

open Behavior ActorState

/--
A tick of telling others leads to some answers, messages and newcomers.  If
somebody got the report directly or has joined, then there was no embargo that
is over, and it was asked whether the newcomer is compatible and answered with
yes if and only if the embargo is active.  Under any other embargo that is never
asked, also not under one that is in force and being revised.
-/
theorem newcomers_compatible_iff_active
    {tree : BehaviorTree Unit ActorState} {bound : Nat}
    (hosts : tree.root.Hosts reportToOthers) :
    ∃ status last, tree.tick bound = .ok (status, last) ∧
      ∃ outreach : Outreach, outreach.Leads tree.board last.board ∧
        (outreach.Invites → tree.board.embargo ≠ .exited ∧
          (outreach.Compatible ↔ tree.board.embargo = .active)) ∧
        (tree.board.embargo ≠ .active → outreach.Unasked) := by
  have tracks : reportToOthers.Ensures bound tree.board fun _ after =>
      Tracks tree.board False after :=
    Course.covers_keeping_iff.mp tracking_reportToOthers tree.board
      (tracks_self tree.board)
  rcases tracks with ⟨status, after, ran, outreach, leads, heeds, _⟩
  obtain ⟨last, ticked, _, rfl⟩ :=
    BehaviorTree.tick_of_hosts hosts proper_reportToOthers ran
  refine ⟨status, last, ticked, outreach, leads, fun invites => ?_,
    heeds.unasked⟩
  have permitted := heeds.permitted invites
  constructor
  · intro exited
    rw [exited] at permitted
    exact permitted
  constructor
  · intro compatible
    by_contra elsewhere
    exact compatible.not_unasked (heeds.unasked elsewhere)
  · intro active
    rw [active] at permitted
    exact permitted

/-- A coordinator who is about to tell a vendor of the case, and reads the
outcomes of decisions off a tape. -/
def introducer (embargo : EmbargoState) (tape : Array Status) : ActorState :=
  { ActorState.new "carol" (.ofList [.coordinator]) (.ofSeed 0) with
    embargo
    notifying := some "vendor-1"
    roster := Roster.empty.addPotential (.new "vendor-1" (.ofList [.vendor]))
    arbiter := .new (.taped 0 tape .weighted) }

/-- All parties are known, but not all of them are told; the vendor is worth the
effort and compatible, and can be found. -/
def careful : ActorState :=
  introducer .active #[.success, .failure, .failure, .success, .success]

/-- The same while the embargo is being revised; the tape has no answer to the
question about compatibility, which is not asked. -/
def careless : ActorState :=
  introducer .revise #[.success, .failure, .failure, .success]

/-- The names of those who take part after a run. -/
def joiners (result : Status × ActorState) : List String :=
  result.2.roster.participants.map Participant.name

theorem careful_invites :
    (reportToOthers.run 1 careful).toOption.map joiners =
      some ["vendor-1"] := by
  decide +kernel

theorem careless_invites :
    (reportToOthers.run 1 careless).toOption.map joiners =
      some ["vendor-1"] := by
  decide +kernel

/-- Whoever takes part where there was nobody has joined. -/
theorem Outreach.Leads.invites {outreach : Outreach} {before after : ActorState}
    {status : Status}
    (leads : outreach.Leads before after)
    (nobody : before.roster.participants = [])
    (joined : joiners (status, after) = ["vendor-1"]) :
    outreach.Invites := by
  right
  intro noNewcomer
  rw [joiners, leads.newcomers, nobody, noNewcomer] at joined
  cases joined

/-- A vendor joins under an active embargo and was asked before. -/
theorem newcomers_compatible_of_careful :
    ∃ tree : BehaviorTree Unit ActorState,
      tree.root.Hosts reportToOthers ∧ tree.board = careful ∧
      ∃ status last, tree.tick 1 = .ok (status, last) ∧
        ∃ outreach : Outreach, outreach.Leads careful last.board ∧
          outreach.newcomers.map Participant.name = ["vendor-1"] ∧
          outreach.Invites ∧ outreach.Compatible := by
  obtain ⟨tree, hosts, board⟩ :=
    BehaviorTree.exists_hosting proper_reportToOthers careful
  obtain ⟨status, last, ticked, outreach, leads, permits, _⟩ :=
    @newcomers_compatible_iff_active tree 1 hosts
  obtain ⟨_, _, _, tickedToo, joined⟩ :=
    BehaviorTree.exists_tick_of_run hosts proper_reportToOthers
      (board ▸ careful_invites)
  cases ticked.symm.trans tickedToo
  rw [board] at leads permits
  have invites : outreach.Invites := leads.invites rfl joined
  have newcomers : outreach.newcomers.map Participant.name = ["vendor-1"] := by
    rwa [joiners, leads.newcomers] at joined
  exact ⟨tree, hosts, board, status, last, ticked, outreach, leads, newcomers,
    invites, (permits invites).2.mpr rfl⟩

/-- While an embargo is being revised, somebody joins without being asked
whether that embargo suits its policy. -/
theorem newcomer_joins_unasked :
    ∃ tree : BehaviorTree Unit ActorState,
      tree.root.Hosts reportToOthers ∧
      tree.board.embargo ∈ [.active, .revise] ∧
      ∃ status last, tree.tick 1 = .ok (status, last) ∧
        ∃ outreach : Outreach, outreach.Leads tree.board last.board ∧
          outreach.Invites ∧ ¬ outreach.Compatible := by
  obtain ⟨tree, hosts, board⟩ :=
    BehaviorTree.exists_hosting proper_reportToOthers careless
  obtain ⟨status, last, ran, ticked, joined⟩ :=
    BehaviorTree.exists_tick_of_run hosts proper_reportToOthers
      (board ▸ careless_invites)
  have tracks : reportToOthers.Ensures 1 tree.board fun _ after =>
      Tracks tree.board False after :=
    Course.covers_keeping_iff.mp tracking_reportToOthers tree.board
      (tracks_self tree.board)
  obtain ⟨_, _, ranToo, outreach, leads, heeds, _⟩ := tracks
  cases ran.symm.trans ranToo
  have invites : outreach.Invites := leads.invites (by rw [board]; rfl) joined
  have unasked : outreach.Unasked := heeds.unasked (by rw [board]; decide)
  refine ⟨tree, hosts, ?_, status, last, ticked, outreach, leads, invites, ?_⟩
  · rw [board]
    decide
  · exact fun compatible => compatible.not_unasked unasked

end Disclosure
