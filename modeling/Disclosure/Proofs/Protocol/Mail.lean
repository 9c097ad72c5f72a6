import Disclosure.Proofs.Protocol.Backdrop
import Disclosure.Proofs.Protocol.EmbargoTalks

/-!
# What handling a message leaves alone

While an actor handles a message, it does not touch its mail: the inbox, the
message in hand and the record of what was received stay as they are.  It may
send news about itself, but no acknowledgement and no error; those are replies,
and the reply comes afterwards.  Neither does it close its report.
-/

namespace Disclosure

/-- An acknowledgement or an error, by which another message is answered. -/
def MessageType.isReply (type : MessageType) : Bool :=
  type.isAck || type.isError

namespace ActorState

/-- Messages of some types were sent to everybody, one after the other. -/
structure Sends (types : List MessageType) (before after : ActorState) :
    Prop where
  name : after.name = before.name
  emitted : after.emitted = before.emitted ++ types
  sent : after.sent.toList =
    before.sent.toList ++
      types.map fun type => Message.broadcast type before.name

namespace Sends

theorem nothing (state : ActorState) : Sends [] state state where
  name := rfl
  emitted := by simp
  sent := by simp

theorem broadcast (type : MessageType) (state : ActorState) :
    Sends [type] state (state.broadcast type) where
  name := rfl
  emitted := rfl
  sent := by simp [ActorState.broadcast, send]

theorem trans {before middle after : ActorState}
    {earlier later : List MessageType}
    (first : Sends earlier before middle)
    (second : Sends later middle after) :
    Sends (earlier ++ later) before after where
  name := second.name.trans first.name
  emitted := by rw [second.emitted, first.emitted, List.append_assoc]
  sent := by
    rw [second.sent, first.sent, first.name, List.map_append,
      List.append_assoc]

end Sends

/-- Nothing has happened to the mail and to the contacts, except that some news
was sent. -/
structure Aside (before after : ActorState) : Prop where
  inbox : after.inbox = before.inbox
  current : after.current = before.current
  received : after.received = before.received
  policy : after.arbiter.policy = before.arbiter.policy
  contacts : after.contacts = before.contacts
  news : ∃ types, Sends types before after ∧
    ∀ type ∈ types, type.isReply = false
  keepsOpen : before.report ≠ .closed → after.report ≠ .closed

namespace Aside

theorem refl (state : ActorState) : Aside state state where
  inbox := rfl
  current := rfl
  received := rfl
  policy := rfl
  contacts := rfl
  news := ⟨[], .nothing state, by simp⟩
  keepsOpen := id

theorem trans {before middle after : ActorState}
    (first : Aside before middle)
    (second : Aside middle after) :
    Aside before after where
  inbox := second.inbox.trans first.inbox
  current := second.current.trans first.current
  received := second.received.trans first.received
  policy := second.policy.trans first.policy
  contacts := second.contacts.trans first.contacts
  news := by
    rcases first.news with ⟨earlier, sendsFirst, noReply⟩
    rcases second.news with ⟨later, sendsSecond, noReplyEither⟩
    refine ⟨earlier ++ later, sendsFirst.trans sendsSecond, ?_⟩
    intro type member
    rcases List.mem_append.mp member with member | member
    · exact noReply type member
    · exact noReplyEither type member
  keepsOpen opened := second.keepsOpen (first.keepsOpen opened)

theorem of_path {before after : ActorState}
    {moves : ActorState → ActorState → Prop}
    (each : ∀ one other, moves one other → Aside one other)
    (path : Relation.ReflTransGen moves before after) :
    Aside before after := by
  induction path with
  | refl => exact refl before
  | tail _ move ih => exact ih.trans (each _ _ move)

end Aside

/-! ## Single changes -/

theorem aside_muses {before after : ActorState} (muses : Muses before after) :
    Aside before after := by
  obtain ⟨stream, arbiter, samePolicy, rfl⟩ := Ponders.exists_eq (.single muses)
  exact ⟨rfl, rfl, rfl, samePolicy, rfl,
    ⟨[], ⟨rfl, by simp, by simp⟩, by simp⟩, id⟩

theorem aside_moveReport {target : ReportState} (state : ActorState)
    (unclosed : target ≠ .closed) :
    Aside state (state.moveReport target) := by
  rw [moveReport_eq]
  exact ⟨rfl, rfl, rfl, rfl, rfl,
    ⟨[], ⟨rfl, by simp, by simp⟩, by simp⟩, fun _ => unclosed⟩

theorem aside_moveEmbargo (state : ActorState) (target : EmbargoState) :
    Aside state (state.moveEmbargo target) := by
  rw [moveEmbargo_eq]
  exact ⟨rfl, rfl, rfl, rfl, rfl,
    ⟨[], ⟨rfl, by simp, by simp⟩, by simp⟩, id⟩

theorem aside_setFlag (state : ActorState) (flag : CaseFlag) :
    Aside state (state.setFlag flag) := by
  rw [setFlag, moveCase_eq]
  exact ⟨rfl, rfl, rfl, rfl, rfl,
    ⟨[], ⟨rfl, by simp, by simp⟩, by simp⟩, id⟩

theorem aside_broadcast {type : MessageType} (state : ActorState)
    (noReply : type.isReply = false) :
    Aside state (state.broadcast type) :=
  ⟨rfl, rfl, rfl, rfl, rfl,
    ⟨[type], .broadcast type state, by simpa using noReply⟩, id⟩

/-! ## Changes that belong together -/

theorem aside_announce (state : ActorState) (move : EmbargoMove) :
    Aside state (state.announce move) := by
  have moved := aside_moveEmbargo state move.target
  refine moved.trans (aside_broadcast _ ?_)
  cases move <;> rfl

theorem aside_learn (state : ActorState) : Aside state state.learn := by
  rw [learn]
  split
  · exact (aside_setFlag state .vendorAware).trans (aside_broadcast _ rfl)
  · exact .refl state

theorem aside_discover (state : ActorState) : Aside state state.discover := by
  have received : Aside state (state.moveReport .received) :=
    aside_moveReport state (by decide)
  exact (received.trans (aside_broadcast _ rfl)).trans (aside_learn _)

theorem aside_takeSubmission (state : ActorState) :
    Aside state state.takeSubmission := by
  rw [takeSubmission]
  split
  · exact (aside_moveReport state (by decide)).trans (aside_learn _)
  · exact aside_learn state

theorem aside_goPublic (state : ActorState) : Aside state state.goPublic := by
  rw [goPublic]
  split
  · exact .refl state
  · exact (aside_setFlag state .publicAware).trans (aside_broadcast _ rfl)

theorem aside_hearNews (state : ActorState) (type : MessageType) :
    Aside state (state.hearNews type) := by
  rw [hearNews.eq_def]
  split
  · exact aside_setFlag state _
  · exact (aside_setFlag state _).trans (aside_goPublic _)
  · exact aside_setFlag state _
  · exact .refl state

theorem EndsEmbargo.aside {before after : ActorState}
    (ends : EndsEmbargo before after) :
    Aside before after := by
  cases ends with
  | nothing => exact .refl before
  | withdraw => exact aside_announce before .reject
  | terminate =>
    exact (aside_muses (.ask before exitDecision)).trans (aside_announce _ _)
  | refused => exact aside_muses (.ask before exitDecision)

end ActorState

end Disclosure
