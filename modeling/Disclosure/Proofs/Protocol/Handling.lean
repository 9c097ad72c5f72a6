import Disclosure.Proofs.Protocol.Mail

/-!
# Handling one message

Each way to handle a message is covered by deeds that leave the mail alone.  The
common shape of the four handlers adds the reply: nothing for an
acknowledgement, and otherwise the acknowledgement or the error of the category
of the message, but never an error for an error.  A message stays without a
reply only when a decision is pending.
-/

namespace Disclosure

/-- The reply is of the category of the message, and an error only if the
message is no error itself. -/
def MessageType.Replies (type reply : MessageType) : Prop :=
  reply = type.category.ack ∨
    reply = type.category.error ∧ type.isError = false

namespace Behavior

open ActorState Course Deliberation

variable {bound : Nat} {pending : Bool} {message : Message}

/-- What is done about a message before it is answered. -/
def handling (pending : Bool) (message : Message) : Course ActorState where
  ready state :=
    state.current = some message ∧ state.arbiter.policy.Settles pending
  move before after := Deed before after ∧ Aside before after
  answers status := status.Settled pending
  stable := by
    rintro before after ⟨handled, settles⟩ ⟨_, aside⟩
    refine ⟨aside.current.trans handled, ?_⟩
    rw [aside.policy]
    exact settles
  success := Status.settled_success
  failure := Status.settled_failure

theorem handling_aside {before after : ActorState}
    (path : (handling pending message).Path before after) :
    Aside before after :=
  .of_path (fun _ _ move => move.2) path

theorem handling_deeds {before after : ActorState}
    (path : (handling pending message).Path before after) :
    Deeds before after :=
  Relation.ReflTransGen.mono (fun _ _ move => move.1) _ _ path

theorem handling_muses {before after : ActorState}
    (muses : Muses before after) :
    (handling pending message).move before after :=
  ⟨.muse muses, aside_muses muses⟩

theorem any_type {state : ActorState} {type : MessageType}
    (handled : state.current = some message) :
    (state.current.any fun other => other.type == type) =
      decide (message.type = type) := by
  rw [handled]
  rfl

/-- A handler minds messages of its type only. -/
theorem ensures_handle {name : String} {type : MessageType}
    {behavior : Behavior} {state : ActorState}
    {post : Status → ActorState → Prop}
    (handled : state.current = some message) :
    (handle name type behavior).Ensures bound state post ↔
      if message.type = type then behavior.Ensures bound state post
      else post .failure state := by
  rw [handle, Spec.ensures_sequence_cons, ensures_isType, any_type handled]
  by_cases same : message.type = type
  · simp [same, Status.ofBool, -Spec.ensures_sequence_cons,
      Spec.ensures_sequence_singleton]
  · simp [same, Status.ofBool]

/-! ## Ways to handle a message -/

/-- A way need only be covered for messages of its type. -/
theorem covers_handle {course : Course ActorState}
    {name : String} {type : MessageType} {behavior : Behavior}
    (handles : ∀ state, course.ready state → state.current = some message)
    (covers : message.type = type → course.Covers bound behavior) :
    course.Covers bound (handle name type behavior) := by
  refine .guarded (fun _ _ => ensures_isType type) ?_
  intro state ready held
  rw [any_type (handles state ready)] at held
  have each : ∀ child ∈ [behavior], course.Covers bound child := by
    simpa using covers (of_decide_eq_true held)
  exact Covers.sequence each state ready

/-- A report is received by whoever has none yet. -/
theorem ensures_receive {name : String} {state : ActorState}
    {post : Status → ActorState → Prop} :
    (Spec.fallback name
      [reportNotIn .start, toReport .received]).Ensures bound state post ↔
      post .success
        (if state.report = .start then state.moveReport .received
        else state) := by
  by_cases started : state.report = .start
  · simp [started, Status.ofBool, ReportState.allowedFrom]
  · simp [started, Status.ofBool]

theorem covers_handleSubmission :
    (handling pending message).Covers bound handleSubmission := by
  refine covers_handle (fun _ ready => ready.1) ?_
  intro submission state ready
  rw [Spec.ensures_sequence_cons, ensures_receive, if_pos rfl,
    Spec.ensures_sequence_cons, ensures_learn, if_pos rfl,
    Spec.ensures_sequence_nil]
  refine ⟨(handling pending message).success, .single ⟨?_, ?_⟩⟩
  · exact .takeSubmission ready.1 submission
  · exact aside_takeSubmission state

/-- Asking back after an error is never refused. -/
theorem ensures_followUpOnError {state : ActorState}
    (ready : (handling pending message).ready state)
    (error : message.type.isError = true) :
    followUpOnError.Ensures bound state fun status after =>
      status ≠ .failure ∧ status.Settled pending ∧
        (handling pending message).Path state after := by
  have asked : (handling pending message).move state
      (state.decide ⟨"FollowUpNotNeeded", .uniformSucceedFail⟩).2 :=
    handling_muses (.ask state _)
  have settled :
      (state.decide ⟨"FollowUpNotNeeded", .uniformSucceedFail⟩).1.Settled
        pending :=
    ready.2 _ _ _
  rw [followUpOnError, Spec.ensures_fallback_cons, Spec.ensures_decision]
  by_cases needed :
      (state.decide ⟨"FollowUpNotNeeded", .uniformSucceedFail⟩).1 = .failure
  · rw [if_pos (by exact needed), Spec.ensures_fallback_cons, ensures_emit,
      if_neg (by decide)]
    refine ⟨by decide, nofun, .tail (.single asked) ?_⟩
    exact ⟨.inquire ready.1 error, aside_broadcast _ rfl⟩
  · rw [if_neg (by exact needed)]
    exact ⟨needed, settled, .single asked⟩

theorem covers_followUp {name : String} {type : MessageType}
    (error : type.isError = true) :
    (handling pending message).Covers bound
      (handle name type followUpOnError) := by
  refine covers_handle (fun _ ready => ready.1) ?_
  rintro rfl state ready
  apply (ensures_followUpOnError ready error).mono
  rintro status after ⟨_, settled, path⟩
  exact ⟨settled, path⟩

/-- An error is handled by asking back, or by deciding that there is no need. -/
theorem followUp_accepts {name : String} {type : MessageType}
    {state : ActorState}
    (ready : (handling pending message).ready state)
    (same : message.type = type)
    (error : type.isError = true) :
    (handle name type followUpOnError).Ensures bound state
      fun status _ => status ≠ .failure := by
  rw [handle, Spec.ensures_sequence_cons, ensures_isType, any_type ready.1]
  simp only [same, decide_true, Status.ofBool, if_true,
    Spec.ensures_sequence_cons]
  apply (ensures_followUpOnError ready (same ▸ error)).mono
  rintro status after ⟨accepted, _, _⟩
  by_cases succeeded : status = .success
  · rw [if_pos succeeded, Spec.ensures_sequence_nil]
    decide
  · rw [if_neg succeeded]
    exact accepted

/-! ## Following the embargo moves of others -/

/-- A move that follows the message in hand. -/
def Follows (before after : ActorState) : Prop :=
  ∃ message move, before.current = some message ∧
    EmbargoMove.following message.type before.embargo = some move ∧
    (before.caseState.isQuiet || move.endsTalks) = true ∧
    after = before.moveEmbargo move.target

theorem Follows.handling {before after : ActorState}
    (follows : Follows before after) :
    (handling pending message).move before after := by
  rcases follows with ⟨about, move, handled, leads, viable, rfl⟩
  exact ⟨.follow handled leads viable, aside_moveEmbargo before _⟩

/-- Hearing: deliberation that ends in following a move, if in anything. -/
abbrev hearing (pending : Bool) : Deliberation ActorState :=
  deliberating pending Follows

section Hearing

variable {deliberation : Deliberation ActorState}

/-- Whether the message in hand is of a type. -/
def concerns (type : MessageType) (state : ActorState) : Bool :=
  state.current.any fun message => message.type == type

theorem exists_of_concerns {type : MessageType} {state : ActorState}
    (concerned : concerns type state = true) :
    ∃ message, state.current = some message ∧ message.type = type := by
  rcases (Option.any_eq_true ..).mp concerned with ⟨message, handled, same⟩
  exact ⟨message, handled, eq_of_beq same⟩

/-- That a message is of the type of its handler is known to the handler. -/
theorem hears_handle {name : String} {type : MessageType}
    {behavior : Behavior}
    (steady : deliberation.Steady (concerns type))
    (covers : (deliberation.given steady true).Covers bound behavior) :
    deliberation.Covers bound (handle name type behavior) :=
  .guard (fun _ _ => ensures_isType type) steady (.last covers)

theorem hears_moveEmbargo {move : EmbargoMove}
    (acts : ∀ before, deliberation.known before →
      before.embargo ∈ move.starts ∧
        deliberation.acts before (before.moveEmbargo move.target)) :
    deliberation.Covers bound (moveEmbargo move) := by
  intro before known
  rcases acts before known with ⟨starts, act⟩
  rw [ensures_moveEmbargo, if_pos (.inr starts)]
  exact ends_of_acts act

end Hearing

/-- A message of the right type, in the right state, at the right time. -/
theorem follows_of_concerns {type : MessageType} {state : ActorState}
    {move : EmbargoMove}
    (concerned : concerns type state = true)
    (leads : EmbargoMove.following type state.embargo = some move)
    (viable : (state.caseState.isQuiet || move.endsTalks) = true) :
    state.embargo ∈ move.starts ∧
      Follows state (state.moveEmbargo move.target) := by
  rcases exists_of_concerns concerned with ⟨message, handled, rfl⟩
  exact ⟨(EmbargoMove.following_starts leads).1,
    message, move, handled, leads, viable, rfl⟩

/-- Being in a state already is as good as moving there. -/
theorem hears_ensureEmbargo {deliberation : Deliberation ActorState}
    {name : String} {start : EmbargoState} (move : EmbargoMove)
    (steady : deliberation.Steady fun state => state.embargo = start)
    (acts : ∀ before, deliberation.known before → before.embargo = start →
      before.embargo ∈ move.starts ∧
        deliberation.acts before (before.moveEmbargo move.target)) :
    deliberation.Covers bound
      (ensureEmbargo name move.target start move) := by
  refine .orElse ?there (.orElse ?move (covers_fallback_nil _))
  case there => exact covers_question fun _ _ => ensures_embargoIn _
  case move =>
    refine .guard (fun _ _ => ensures_embargoIn _) steady
      (.last (hears_moveEmbargo ?_))
    rintro before ⟨known, begins⟩
    exact acts before known (of_decide_eq_true begins)

/-- An answer to a revision leads back to the embargo. -/
theorem hears_handleRevisionResponse {fact : ActorState → Bool}
    (steady : (hearing pending).Steady fact)
    (quiet : ∀ state, fact state = true → state.caseState.isQuiet = true) :
    ((hearing pending).given steady true).Covers bound
      handleRevisionResponse := by
  have leads : ∀ (name : String) (type : MessageType) (move : EmbargoMove),
      EmbargoMove.following type .revise = some move →
      ∀ revising : ((hearing pending).given steady true).Steady
        fun state => state.embargo = .revise,
      (((hearing pending).given steady true).given revising true).Covers bound
        (handle name type (moveEmbargo move)) := by
    intro name type move follows revising
    refine hears_handle (fun _ _ _ => rfl) (hears_moveEmbargo ?_)
    rintro before ⟨⟨⟨_, held⟩, inRevision⟩, concerned⟩
    refine follows_of_concerns concerned ?_ (by simp [quiet before held])
    rw [of_decide_eq_true inRevision]
    exact follows
  refine .think ?types (.last (.orElse ?there (.orElse ?move
    (covers_fallback_nil _))))
  case types =>
    exact .orElse (covers_question fun _ _ => ensures_isType _)
      (.orElse (covers_question fun _ _ => ensures_isType _)
        (covers_fallback_nil _))
  case there => exact covers_question fun _ _ => ensures_embargoIn _
  case move =>
    refine .guard (fun _ _ => ensures_embargoIn _) (fun _ _ _ => rfl)
      (.last (.orElse ?rejected (.orElse ?accepted (covers_fallback_nil _))))
    case rejected => exact leads _ _ .rejectRevision rfl _
    case accepted => exact leads _ _ .accept rfl _

/-- In a quiet case moves towards an embargo are followed. -/
theorem hears_handleWhileQuiet :
    (hearing pending).Covers bound handleWhileQuiet := by
  have quietly : ∀ (name ensured : String) (type : MessageType)
      (start : EmbargoState) (move : EmbargoMove),
      EmbargoMove.following type start = some move →
      ∀ steady : (hearing pending).Steady fun state =>
        state.caseState.isQuiet,
      ((hearing pending).given steady true).Covers bound
        (handle name type (ensureEmbargo ensured move.target start move)) := by
    intro name ensured type start move follows steady
    refine hears_handle (fun _ _ _ => rfl)
      (hears_ensureEmbargo move (fun _ _ _ => rfl) ?_)
    rintro before ⟨⟨_, quiet⟩, concerned⟩ begins
    refine follows_of_concerns concerned ?_ (by simp [quiet])
    rw [begins]
    exact follows
  refine .guard (fun _ _ => ensures_caseQuiet) (fun _ _ _ => rfl)
    (.last (.orElse ?proposal (.orElse ?acceptance (.orElse ?revision
      (.orElse ?response (covers_fallback_nil _))))))
  case proposal => exact quietly _ _ _ _ .propose rfl _
  case acceptance => exact quietly _ _ _ _ .accept rfl _
  case revision => exact quietly _ _ _ _ .revise rfl _
  case response =>
    exact hears_handleRevisionResponse _ fun _ quiet => quiet

/-- A rejection takes a proposal off the table, in every case. -/
theorem hears_rejection :
    (hearing pending).Covers bound
      (handle "HandleEr" .embargoRejected
        (ensureEmbargo "RejectionRecognized" .noEmbargo .proposed
          .reject)) := by
  refine hears_handle (fun _ _ _ => rfl)
    (hears_ensureEmbargo .reject (fun _ _ _ => rfl) ?_)
  rintro before ⟨_, concerned⟩ begins
  refine follows_of_concerns concerned ?_ (by simp [EmbargoMove.endsTalks])
  rw [begins]
  rfl

/-- A termination ends an embargo that is in force, in every case. -/
theorem hears_termination :
    (hearing pending).Covers bound
      (handle "HandleEt" .embargoTerminated
        (.fallback "EnsureEmbargoExited"
          [embargoIn .exited,
           .sequence "RecognizeEmbargoExit"
            [embargoInForce, moveEmbargo .terminate]])) := by
  refine hears_handle (fun _ _ _ => rfl) (.orElse ?there (.orElse ?move
    (covers_fallback_nil _)))
  case there => exact covers_question fun _ _ => ensures_embargoIn _
  case move =>
    refine .guard (fun _ _ => ensures_embargoInForce) (fun _ _ _ => rfl)
      (.last (hears_moveEmbargo ?_))
    rintro before ⟨⟨_, concerned⟩, inForce⟩
    refine follows_of_concerns concerned ?_ (by simp [EmbargoMove.endsTalks])
    rcases List.mem_pair.mp (of_decide_eq_true inForce) with stands | stands
    · rw [stands]
      rfl
    · rw [stands]
      rfl

/-- Whatever is heard keeps to the handling. -/
theorem Hears.handling {behavior : Behavior}
    (hears : (hearing pending).Covers bound behavior) :
    (handling pending message).Covers bound behavior :=
  hears.onCourse (fun _ ready => ready.2) (fun _ _ => handling_muses)
    (fun _ _ _ => Follows.handling) (fun _ => id)

/-! ## Public news -/

/-- Once something is public, ending the embargo keeps to the handling. -/
theorem handling_ends {before after : ActorState}
    (ends : EndsEmbargo before after) :
    (handling pending message).Path before after := by
  cases ends with
  | nothing => exact .refl
  | withdraw proposed =>
    refine .single ⟨.announce .reject ?_ ?_, aside_announce before .reject⟩
    · simp [proposed, EmbargoMove.starts]
    · simp [EmbargoMove.offersTerms]
  | terminate inForce =>
    refine .tail (.single (handling_muses (.ask before exitDecision))) ?_
    refine ⟨.announce .terminate inForce ?_, aside_announce _ .terminate⟩
    simp [EmbargoMove.offersTerms]
  | refused => exact .single (handling_muses (.ask before exitDecision))

/-- Where something is public, every other talk of an embargo ends it. -/
theorem covers_avoidNonViable {name : String} :
    (handling pending message).Covers bound
      (Spec.sequence name [caseNotQuiet, terminateEmbargo]) := by
  refine .guarded (fun _ _ => ensures_caseNotQuiet) ?_
  intro state ready news
  rw [Spec.ensures_sequence_singleton]
  apply (ensures_terminateEmbargo (by simpa using news)).mono
  rintro status after ⟨ends, answer⟩
  refine ⟨?_, handling_ends ends⟩
  rcases answer with rfl | rfl
  · nofun
  · exact ready.2 _ _ _

/-- The types of message by which something becomes public. -/
def publicNews : List MessageType :=
  [.publicAware, .exploitPublished, .attacksObserved]

/-- A published exploit sets its flag and makes the case public. -/
theorem ensures_exploitNews {state : ActorState}
    {post : Status → ActorState → Prop}
    (handled : state.current = some message) :
    handleExploit.Ensures bound state post ↔
      if message.type = .exploitPublished then
        post .success (state.hearNews .exploitPublished)
      else post .failure state := by
  rw [handleExploit, ensures_handle handled]
  by_cases exploit : message.type = .exploitPublished
  · rw [if_pos exploit, if_pos exploit, Spec.ensures_fallback_cons,
      ensures_exploitKnown]
    by_cases known : state.caseState.exploitKnown = true
    · have both : state.caseState.publicAware = true ∧
          state.caseState.exploitPublic = true := by
        simpa [CaseState.exploitKnown] using known
      have exploited : state.caseState.has .exploitPublic = true := both.2
      have same : state.hearNews .exploitPublished = state := by
        rw [hearNews, setFlag_of_has exploited, goPublic, if_pos both.1]
      simp [known, Status.ofBool, same]
    · rw [if_pos (by simpa using known), Spec.ensures_fallback_cons,
        Spec.ensures_sequence_cons, ensures_toExploitPublic, if_pos rfl,
        Spec.ensures_sequence_singleton, ensures_goPublic, if_neg (by decide)]
      rfl
  · rw [if_neg exploit, if_neg exploit]

/-- Setting a flag that may be set is one success, set or not. -/
theorem ensures_flagNews {name : String} {flag : CaseFlag}
    {state : ActorState} {post : Status → ActorState → Prop}
    (free : ∀ other : Status → ActorState → Prop,
      (toCase flag).Ensures bound state other ↔
        other .success (state.setFlag flag)) :
    (Spec.fallback name [caseHas flag, toCase flag]).Ensures bound state post ↔
      post .success (state.setFlag flag) := by
  cases has : state.caseState.has flag with
  | true => simp [has, Status.ofBool, setFlag_of_has has]
  | false => simp [has, Status.ofBool, free]

/-- News are recognized, and nothing else is. -/
theorem ensures_recognizeNews {name : String} {state : ActorState}
    {post : Status → ActorState → Prop}
    (handled : state.current = some message) :
    (Spec.fallback name
      [handle "HandleCp" .publicAware
        (.fallback "EnsureCsP" [caseHas .publicAware, toCase .publicAware]),
       handleExploit,
       handle "HandleCa" .attacksObserved
        (.fallback "EnsureCsA"
          [caseHas .attacksObserved, toCase .attacksObserved])]).Ensures
        bound state post ↔
      if message.type ∈ publicNews then
        post .success (state.hearNews message.type)
      else post .failure state := by
  rw [Spec.ensures_fallback_cons, ensures_handle handled]
  by_cases wentPublic : message.type = .publicAware
  · rw [if_pos wentPublic, ensures_flagNews fun _ => ensures_toPublicAware]
    simp [wentPublic, publicNews, hearNews]
  rw [if_neg wentPublic, if_pos rfl, Spec.ensures_fallback_cons,
    ensures_exploitNews handled]
  by_cases exploit : message.type = .exploitPublished
  · simp [exploit, publicNews]
  rw [if_neg exploit, if_pos rfl, Spec.ensures_fallback_cons,
    ensures_handle handled]
  by_cases attacked : message.type = .attacksObserved
  · rw [if_pos attacked, ensures_flagNews fun _ => ensures_toAttacksObserved]
    simp [attacked, publicNews, hearNews]
  · simp [wentPublic, exploit, attacked, publicNews]

theorem hearNews_not_quiet {type : MessageType} (state : ActorState)
    (news : type ∈ publicNews) :
    (state.hearNews type).caseState.isQuiet = false := by
  simp only [publicNews, List.mem_cons, List.not_mem_nil, or_false] at news
  rcases news with rfl | rfl | rfl
  · simp [hearNews, setFlag, moveCase_eq, CaseState.insert, CaseState.isQuiet]
  · by_cases aware : state.caseState.publicAware = true
    · simp [hearNews, goPublic, setFlag, moveCase_eq, CaseState.insert,
        CaseState.isQuiet, aware]
    · simp [hearNews, goPublic, setFlag, moveCase_eq, CaseState.insert,
        CaseState.isQuiet, aware, broadcast, send]
  · simp [hearNews, setFlag, moveCase_eq, CaseState.insert, CaseState.isQuiet]

/-- Hearing news and ending the embargo for it is one deed. -/
theorem covers_handlePublicNews :
    (handling pending message).Covers bound handlePublicNews := by
  intro state ready
  rw [handlePublicNews, Spec.ensures_sequence_cons,
    ensures_recognizeNews ready.1]
  by_cases news : message.type ∈ publicNews
  · have aside := aside_hearNews state message.type
    have settles : (state.hearNews message.type).arbiter.policy.Settles
        pending := aside.policy ▸ ready.2
    rw [if_pos news, if_pos rfl, Spec.ensures_sequence_singleton]
    apply (ensures_terminateEmbargo (hearNews_not_quiet state news)).mono
    rintro status after ⟨ends, answer⟩
    refine ⟨?_, .single ⟨.hearNews ready.1 news ends,
      aside.trans ends.aside⟩⟩
    rcases answer with rfl | rfl
    · nofun
    · exact settles _ _ _
  · rw [if_neg news, if_neg (by decide)]
    exact ⟨nofun, .refl⟩

end Behavior

end Disclosure
