import Disclosure.Proofs.Actor.Run
import Disclosure.Proofs.Protocol.Resemblance
import Disclosure.Proofs.Tree.Deliberation

/-!
# What an actor sees of its mail

Two actors that resemble each other go on to do so, whatever is delivered to them,
as long as the messages have the same types.  In each tick they give the same
answer and send the same messages.  So who sent a message, to whom, and what it
says has no influence on anything that an actor does.  The same is true of the
identifiers that come from outside: their text is never looked at.
-/

namespace Disclosure

/-- New actors with the same stream resemble each other. -/
theorem ActorState.Resembles.beginning (name : String) (roles : Roles)
    {chance other : Chance} (sameStream : other.stream = chance.stream) :
    (ActorState.new name roles chance).recordStates.Resembles
      (other.identifiers = chance.identifiers)
      (ActorState.new name roles other).recordStates := by
  obtain ⟨stream, identifiers⟩ := chance
  obtain ⟨_, others⟩ := other
  subst sameStream
  exact .exchanged rfl rfl rfl fun same => ⟨same, rfl⟩

namespace Actor

variable {shared : Prop} {actor twin : Actor}

/-- The type of the message that is delivered, if one is. -/
def Event.delivered? : Event → Option MessageType
  | deliver message => some message.type
  | tick => none

/-- What can be seen of an event from outside: of a tick, its answer and the
messages that were sent in it. -/
def outcome? (actor : Actor) : Event → Option (Status × List Message)
  | .deliver _ => none
  | .tick =>
    some (actor.tick.1,
      actor.tick.2.state.sent.toList.drop actor.state.sent.size)

/-- What can be seen of several events, one after the other. -/
def outcomes : List Event → Actor → List (Status × List Message)
  | [], _ => []
  | event :: events, actor =>
    (actor.outcome? event).toList ++ outcomes events (actor.react event)

/-- A tick comes to what the run of the protocol comes to. -/
theorem Live.answer_of_run (live : actor.Live) {status : Status}
    {after : ActorState}
    (ran : Behavior.protocolRoot.run (actor.state.inbox.length + 2)
      actor.state.clocked = .ok (status, after)) :
    actor.tick.1 = status ∧ actor.tick.2.state = after := by
  have ends : Behavior.protocolRoot.Ensures (actor.state.inbox.length + 2)
      actor.state.clocked
      (fun answer state => answer = status ∧ state = after) :=
    ⟨status, after, ran, rfl, rfl⟩
  exact (live.answer_of_ensures ends).2

/-- Actors that resemble each other give the same answer to a tick. -/
theorem Live.tick_resembles (live : actor.Live) (liveTwin : twin.Live)
    (resembles : actor.state.Resembles shared twin.state) :
    twin.tick.1 = actor.tick.1 ∧
      actor.tick.2.state.Resembles shared twin.tick.2.state := by
  have clocked : actor.state.clocked.Resembles shared twin.state.clocked :=
    resembles.change fun _ _ _ _ _ => rfl
  have sameBound : twin.state.inbox.length + 2 =
      actor.state.inbox.length + 2 := by
    simpa using congrArg List.length resembles.waiting
  obtain ⟨status, after, twinAfter, ran, ranToo, _, resemblesAfter⟩ :=
    Behavior.respects_protocolRoot.ensures clocked
      (Behavior.ensures_protocolRoot actor.inbox_lt_bound)
  have answered := live.answer_of_run ran
  have answeredToo := liveTwin.answer_of_run (sameBound ▸ ranToo)
  rw [answered.1, answered.2, answeredToo.1, answeredToo.2]
  exact ⟨rfl, resemblesAfter⟩

theorem Live.react (live : actor.Live) (event : Event) :
    (actor.react event).Live := by
  cases event with
  | deliver message => exact live
  | tick => exact live.tick.1

/-- So it is with any event, if what is delivered has the same type. -/
theorem Live.react_resembles (live : actor.Live) (liveTwin : twin.Live)
    (resembles : actor.state.Resembles shared twin.state)
    {event other : Event} (alike : other.delivered? = event.delivered?) :
    twin.outcome? other = actor.outcome? event ∧
      (actor.react event).state.Resembles shared
        (twin.react other).state := by
  cases event with
  | deliver message =>
    cases other with
    | deliver message => exact ⟨rfl, resembles.deliver (Option.some.inj alike)⟩
    | tick => cases alike
  | tick =>
    cases other with
    | deliver message => cases alike
    | tick =>
      rcases live.tick_resembles liveTwin resembles with
        ⟨sameAnswer, resemblesAfter⟩
      have sentBefore : twin.state.sent = actor.state.sent :=
        resembles.reads fun _ _ _ _ _ => rfl
      have sentAfter : twin.tick.2.state.sent = actor.tick.2.state.sent :=
        resemblesAfter.reads fun _ _ _ _ _ => rfl
      refine ⟨?_, resemblesAfter⟩
      rw [outcome?, outcome?, sameAnswer, sentBefore, sentAfter]

/--
Nothing of a message but its type has an influence.  Two actors with the same
state, apart from messages that agree in their types only, go through any ticks
and through deliveries that agree in type as well.  Then their states still are
the same in this sense, they gave the same answers to all ticks, and they sent
the same messages in each of them.  Where they do not share the source of
identifiers, one of them has an identifier if the other has, but it may be
another text.
-/
theorem only_types_of_messages_matter (live : actor.Live)
    (liveTwin : twin.Live)
    (resembles : actor.state.Resembles shared twin.state)
    {events others : List Event}
    (alike : others.map Event.delivered? = events.map Event.delivered?) :
    (actor.play events).state.Resembles shared (twin.play others).state ∧
      outcomes others twin = outcomes events actor := by
  induction events generalizing actor twin others with
  | nil =>
    rw [List.map_nil, List.map_eq_nil_iff] at alike
    subst alike
    exact ⟨resembles, rfl⟩
  | cons event events continues =>
    obtain ⟨other, others, rfl, sameType, sameTypes⟩ :=
      List.map_eq_cons_iff.mp alike
    rcases live.react_resembles liveTwin resembles sameType with
      ⟨sameOutcome, resemblesThen⟩
    rcases continues (live.react event) (liveTwin.react other) resemblesThen
      sameTypes with ⟨resemblesLast, sameOutcomes⟩
    refine ⟨resemblesLast, ?_⟩
    rw [outcomes, outcomes, sameOutcome, sameOutcomes]

/-- A vendor does the same with a forged report as with an honest one, in the
tick of its arrival and when more is asked, wherever identifiers come from. -/
theorem only_types_of_messages_matter_to_vendor :
    let report : Message :=
      ⟨.reportSubmission, "finder", some "vendor", .text "overflow"⟩
    let question : Message := .broadcast .inquiry "finder"
    let forgedReport : Message := ⟨.reportSubmission, "", none, .null⟩
    let forgedQuestion : Message := ⟨.inquiry, "", some "nobody", .null⟩
    let honest : List Event := [.tick, .deliver question, .tick]
    let forged : List Event := [.tick, .deliver forgedQuestion, .tick]
    ∃ actor twin,
      new "vendor" (.ofList [.vendor]) ⟨.ofSeed 1, .ofSeed 2⟩ = .ok actor ∧
      new "vendor" (.ofList [.vendor]) ⟨.ofSeed 1, .ofSeed 3⟩ = .ok twin ∧
      ((actor.deliver report).play honest).state.Resembles False
        ((twin.deliver forgedReport).play forged).state ∧
      outcomes forged (twin.deliver forgedReport) =
        outcomes honest (actor.deliver report) := by
  intro report question forgedReport forgedQuestion honest forged
  obtain ⟨actor, made, live, begins⟩ :=
    exists_new "vendor" (.ofList [.vendor]) ⟨.ofSeed 1, .ofSeed 2⟩
  obtain ⟨twin, madeToo, liveTwin, beginsToo⟩ :=
    exists_new "vendor" (.ofList [.vendor]) ⟨.ofSeed 1, .ofSeed 3⟩
  have liveHonest : (actor.deliver report).Live := live.react (.deliver report)
  have liveForged : (twin.deliver forgedReport).Live :=
    liveTwin.react (.deliver forgedReport)
  have resembles : actor.state.Resembles False twin.state := by
    rw [begins, beginsToo]
    exact .mono (.beginning _ _ rfl) False.elim
  exact ⟨actor, twin, made, madeToo,
    only_types_of_messages_matter liveHonest liveForged
      (resembles.deliver rfl) rfl⟩

/-- The vendor has accepted the report, may assign an identifier, and does
nothing else. -/
def accepting (state : ActorState) : ActorState :=
  { state with
    report := .accepted
    priority := .immediate
    arbiter := .new (.nodding
      ["InScope", "IsIDAssignmentAuthority", "IdAssignable", "AssignId"]) }

/-- A vendor with a stream of its own and a source of identifiers. -/
def authority (identifiers : RandomStream) : Except BuildError Actor :=
  (new "vendor" (.ofList [.vendor]) ⟨.ofSeed 0, identifiers⟩).map
    fun actor => actor.modify accepting

theorem exists_authority (identifiers : RandomStream) :
    ∃ actor, authority identifiers = .ok actor ∧ actor.Live ∧
      actor.state =
        accepting (ActorState.new "vendor" (.ofList [.vendor])
          ⟨.ofSeed 0, identifiers⟩).recordStates := by
  obtain ⟨actor, made, live, begins⟩ :=
    exists_new "vendor" (.ofList [.vendor]) ⟨.ofSeed 0, identifiers⟩
  exact ⟨actor.modify accepting, by rw [authority, made]; rfl, live,
    congrArg accepting begins⟩

/-- All that is known, drawn on and delivered is the same on both sides, and
still each of them assigns an identifier of its own. -/
theorem identifiers_come_from_outside :
    ∃ actor twin, authority (.ofSeed 1) = .ok actor ∧
      authority (.ofSeed 2) = .ok twin ∧ actor.Live ∧ twin.Live ∧
      twin.state = { actor.state with identifiers := .ofSeed 2 } ∧
      actor.tick.2.state.vulnerabilityId.isSome = true ∧
      twin.tick.2.state.vulnerabilityId ≠
        actor.tick.2.state.vulnerabilityId := by
  let assigned (identifiers : RandomStream) : Option (Option String) :=
    (authority identifiers).toOption.map fun actor =>
      actor.tick.2.state.vulnerabilityId
  have assigns : (assigned (.ofSeed 1)).any Option.isSome = true := by
    decide +kernel
  have differs : assigned (.ofSeed 2) ≠ assigned (.ofSeed 1) := by
    decide +kernel
  obtain ⟨actor, made, live, begins⟩ := exists_authority (.ofSeed 1)
  obtain ⟨twin, madeToo, liveTwin, beginsToo⟩ := exists_authority (.ofSeed 2)
  simp only [assigned, made, madeToo] at assigns differs
  refine ⟨actor, twin, made, madeToo, live, liveTwin, ?_, assigns,
    fun same => differs (congrArg some same)⟩
  rw [begins, beginsToo]
  rfl

end Actor

end Disclosure
