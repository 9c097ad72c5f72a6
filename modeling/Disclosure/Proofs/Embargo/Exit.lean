import Disclosure.Proofs.Actor.Histories
import Disclosure.Proofs.Record.Deeds

/-!
# An embargo that has been exited

An embargo comes to its end once, out of being in force, and whoever ends it by an
own move says so in the same entry.  From then on it stays as it is, and the actor
says nothing about its terms any more.  This takes only what is known of entries
about the embargo: none of them is made in a record whose embargo is exited.
-/

namespace Disclosure

/-! ## Moves that lead to the end -/

namespace EmbargoMove

theorem ne_exited_of_starts {move : EmbargoMove} {state : EmbargoState}
    (starts : state ∈ move.starts) :
    state ≠ .exited := by
  rintro rfl
  cases move <;> revert starts <;> decide

theorem eq_terminate_of_target {move : EmbargoMove}
    (ends : move.target = .exited) :
    move = terminate := by
  cases move <;> cases ends
  rfl

theorem eq_terminate_of_announcement {move : EmbargoMove}
    (said : move.announcement = .embargoTerminated) :
    move = terminate := by
  cases move <;> cases said
  rfl

end EmbargoMove

theorem MessageType.topic_eq_terms_iff (type : MessageType) :
    type.topic = .terms ↔
      type ∈ [embargoProposal, embargoRejected, embargoAccepted,
        revisionProposal, revisionRejected, revisionAccepted,
        embargoTerminated] := by
  cases type <;> decide

/-! ## Records -/

namespace Record

/-- The embargo stays as it is, and nothing is said about its terms. -/
structure LeavesEmbargo (before after : Record) : Prop where
  embargo : after.embargo = before.embargo
  terms : after.about .terms = before.about .terms

variable {record before middle after : Record} {type : MessageType}

theorem LeavesEmbargo.trans
    (first : LeavesEmbargo before middle)
    (second : LeavesEmbargo middle after) :
    LeavesEmbargo before after :=
  ⟨second.embargo.trans first.embargo, second.terms.trans first.terms⟩

theorem LeavesEmbargo.say
    (leaves : LeavesEmbargo before after)
    (other : type.topic ≠ .terms) :
    LeavesEmbargo before (after.say type) where
  embargo := leaves.embargo
  terms := by
    rw [about_say, if_neg other, List.append_nil]
    exact leaves.terms

/-- End the embargo, by an own move that is announced or after somebody else. -/
def terminate (announced : Bool) (record : Record) : Record :=
  if announced then
    (record.moveEmbargo .terminate).say .embargoTerminated
  else record.moveEmbargo .terminate

theorem about_terminate (announced : Bool) (record : Record) :
    (record.terminate announced).about .terms =
      record.about .terms ++ if announced then [.embargoTerminated] else [] := by
  cases announced with
  | true => exact about_say _ .terms .embargoTerminated
  | false => exact (List.append_nil _).symm

theorem embargo_terminate (announced : Bool) (record : Record) :
    (record.terminate announced).embargo = .exited := by
  cases announced with
  | true | false => rfl

/-- The embargo is not over, and nobody was told that it is. -/
structure Ongoing (record : Record) : Prop where
  embargo : record.embargo ≠ .exited
  unsaid : .embargoTerminated ∉ record.about .terms

/-- On the way from one record to another the embargo was ended out of being in
force, and from then on it was left alone. -/
def Exits (announced : Bool) (before after : Record) : Prop :=
  ∃ last : Record, Entries before last ∧ last.Ongoing ∧
    last.embargo ∈ [.active, .revise] ∧
    Entries (last.terminate announced) after ∧
    LeavesEmbargo (last.terminate announced) after

end Record

open Record

variable {before after : Record}

/-! ## Entries -/

theorem ReportEntry.leavesEmbargo (entry : ReportEntry before after) :
    LeavesEmbargo before after := by
  cases entry with
  | receive => exact ⟨rfl, rfl⟩
  | submit => exact LeavesEmbargo.say ⟨rfl, rfl⟩ (by decide)
  | declare announced =>
    have topic := ReportState.topic_of_verdict announced
    exact LeavesEmbargo.say ⟨rfl, rfl⟩ (by simp [topic])
  | insist => exact LeavesEmbargo.say ⟨rfl, rfl⟩ (by decide)

theorem CaseEntry.leavesEmbargo (entry : CaseEntry before after) :
    LeavesEmbargo before after := by
  cases entry with
  | hear => exact ⟨rfl, rfl⟩
  | expose => exact LeavesEmbargo.say ⟨rfl, rfl⟩ (by decide)
  | @raise flag =>
    have topic := flag.topic_news
    exact LeavesEmbargo.say ⟨rfl, rfl⟩ (by simp [topic])

namespace Entry

/-- What is not about the embargo leaves the embargo alone. -/
theorem embargo_or_leaves (entry : Entry before after) :
    EmbargoEntry before after ∨ LeavesEmbargo before after := by
  cases entry with
  | report entry => exact .inr entry.leavesEmbargo
  | embargo entry => exact .inl entry
  | caseState entry => exact .inr entry.leavesEmbargo
  | talk talks =>
    exact .inr (LeavesEmbargo.say ⟨rfl, rfl⟩ (by simp [talks]))
  | welcome => exact .inr ⟨rfl, about_welcome _ _ _ (by decide)⟩

/-- There are no entries about an embargo that is over. -/
theorem leaves_exited (entry : Entry before after)
    (exited : before.embargo = .exited) :
    LeavesEmbargo before after := by
  rcases entry.embargo_or_leaves with moved | leaves
  · cases moved with
    | follow starts | announce starts =>
      exact absurd exited (EmbargoMove.ne_exited_of_starts starts)
  · exact leaves

/-- An entry leaves an ongoing embargo ongoing, or terminates it. -/
theorem ongoing_or_terminates (entry : Entry before after)
    (ongoing : before.Ongoing) :
    after.Ongoing ∨
      before.embargo ∈ [.active, .revise] ∧
        ∃ announced, after = before.terminate announced := by
  rcases entry.embargo_or_leaves with moved | leaves
  · cases moved with
    | @follow move starts =>
      by_cases ends : move.target = .exited
      · cases EmbargoMove.eq_terminate_of_target ends
        exact .inr ⟨starts, false, rfl⟩
      · exact .inl ⟨ends, ongoing.unsaid⟩
    | @announce move starts =>
      by_cases ends : move.target = .exited
      · cases EmbargoMove.eq_terminate_of_target ends
        exact .inr ⟨starts, true, rfl⟩
      · refine .inl ⟨ends, ?_⟩
        rw [about_say, if_pos move.topic_announcement]
        intro among
        rcases List.mem_append.mp among with earlier | now
        · exact ongoing.unsaid earlier
        · have said := (List.mem_singleton.mp now).symm
          rw [EmbargoMove.eq_terminate_of_announcement said] at ends
          exact ends rfl
  · left
    constructor
    · rw [leaves.embargo]
      exact ongoing.embargo
    · rw [leaves.terms]
      exact ongoing.unsaid

/-- What was sent stays sent. -/
theorem sent_prefix (entry : Entry before after) :
    before.sent <+: after.sent := by
  cases entry with
  | report entry | embargo entry | caseState entry =>
    cases entry <;>
      first | exact List.prefix_rfl | exact List.prefix_append _ _
  | talk | welcome => exact List.prefix_append _ _

end Entry

namespace Entries

theorem sent_prefix (entries : Entries before after) :
    before.sent <+: after.sent := by
  induction entries with
  | refl => exact List.prefix_rfl
  | tail _ entry ih => exact ih.trans entry.sent_prefix

/-- Once the embargo is exited, it is left alone. -/
theorem leaves_exited (entries : Entries before after)
    (exited : before.embargo = .exited) :
    LeavesEmbargo before after := by
  induction entries with
  | refl => exact ⟨rfl, rfl⟩
  | tail _ entry ih =>
    have exitedThen := ih.embargo.trans exited
    exact ih.trans (entry.leaves_exited exitedThen)

/-- An ongoing embargo goes on, or it was ended at some point on the way. -/
theorem ongoing_or_exits (entries : Entries before after)
    (ongoing : before.Ongoing) :
    after.Ongoing ∨ ∃ announced, Exits announced before after := by
  induction entries with
  | refl => exact .inl ongoing
  | tail path entry ih =>
    rcases ih with still | ⟨announced, last, way, lasted, inForce, rest, leaves⟩
    · rcases entry.ongoing_or_terminates still with
        stillThen | ⟨inForce, announced, rfl⟩
      · exact .inl stillThen
      · exact .inr ⟨announced, _, path, still, inForce, .refl, rfl, rfl⟩
    · have exited := leaves.embargo.trans (last.embargo_terminate announced)
      exact .inr ⟨announced, last, way, lasted, inForce, rest.tail entry,
        leaves.trans (entry.leaves_exited exited)⟩

end Entries

namespace Record

/-- Messages are about what their types are about. -/
theorem about_of_sent {messages : List Message}
    (sent : after.sent = before.sent ++ messages) (topic : Topic) :
    after.about topic = before.about topic ++
      (messages.map Message.type).filter fun type => type.topic = topic := by
  rw [about, said, sent, List.map_append, List.filter_append]
  rfl

namespace Exits

variable {announced : Bool}

theorem exited (exits : Exits announced before after) :
    after.embargo = .exited := by
  rcases exits with ⟨last, _, _, _, _, leaves⟩
  exact leaves.embargo.trans (last.embargo_terminate announced)

/-- Whether it was announced, and nothing before that. -/
theorem count (exits : Exits announced before after) :
    (after.about .terms).count .embargoTerminated = announced.toNat := by
  rcases exits with ⟨last, _, ongoing, _, _, leaves⟩
  rw [leaves.terms, about_terminate, List.count_append,
    List.count_eq_zero.mpr ongoing.unsaid, Nat.zero_add]
  cases announced with
  | true | false => rfl

end Exits

theorem Ongoing.beginning (name : String) (roles : Roles)
    (abilities : Capabilities) :
    (Record.beginning name roles abilities).Ongoing where
  embargo := nofun
  unsaid := List.not_mem_nil

/-- The end of an embargo is announced once at most. -/
theorem Ongoing.count_le_one
    (begun : before.Ongoing)
    (entries : Entries before after) :
    (after.about .terms).count .embargoTerminated ≤ 1 := by
  rcases entries.ongoing_or_exits begun with ongoing | ⟨announced, exits⟩
  · rw [List.count_eq_zero.mpr ongoing.unsaid]
    exact Nat.zero_le 1
  · rw [exits.count]
    exact Bool.toNat_le announced

/-- Where the embargo is not over, it has been going on all the time. -/
theorem Ongoing.still
    (begun : before.Ongoing)
    (entries : Entries before after)
    (unfinished : after.embargo ≠ .exited) :
    after.Ongoing := by
  rcases entries.ongoing_or_exits begun with ongoing | ⟨_, exits⟩
  · exact ongoing
  · exact absurd exits.exited unfinished

section Messages

variable {messages : List Message}
  (sent : after.sent = before.sent ++ messages)

include sent

/-- Where nothing was said about terms, no message was about them. -/
theorem LeavesEmbargo.no_terms (leaves : LeavesEmbargo before after) :
    ∀ message ∈ messages, message.type.topic ≠ .terms := by
  have terms := leaves.terms
  rw [about_of_sent sent, List.append_right_eq_self,
    List.filter_eq_nil_iff] at terms
  intro message among
  simpa using terms message.type (List.mem_map_of_mem among)

/-- The end is in the messages if it was announced on the way. -/
theorem count_terminated :
    (after.about .terms).count .embargoTerminated =
      (before.about .terms).count .embargoTerminated +
        (messages.map Message.type).count .embargoTerminated := by
  rw [about_of_sent sent, List.count_append]
  congr 1
  exact List.count_filter rfl

/-- Of an ongoing embargo the end is announced together with the move. -/
theorem Ongoing.exits_of_said
    (ongoing : before.Ongoing)
    (entries : Entries before after)
    (said : .embargoTerminated ∈ messages.map Message.type) :
    Exits true before after := by
  have announced := List.count_pos_iff.mpr said
  have count := count_terminated sent
  rw [List.count_eq_zero.mpr ongoing.unsaid, Nat.zero_add] at count
  rcases entries.ongoing_or_exits ongoing with still | ⟨loud, exits⟩
  · rw [List.count_eq_zero.mpr still.unsaid] at count
    omega
  · rw [exits.count] at count
    cases loud with
    | true => exact exits
    | false => exact absurd announced (count ▸ Nat.lt_irrefl 0)

/-- Who does not announce the end has left it to somebody else. -/
theorem Ongoing.exits_of_unsaid
    (ongoing : before.Ongoing)
    (entries : Entries before after)
    (exited : after.embargo = .exited)
    (unsaid : .embargoTerminated ∉ messages.map Message.type) :
    Exits false before after := by
  have count := count_terminated sent
  rw [List.count_eq_zero.mpr ongoing.unsaid,
    List.count_eq_zero.mpr unsaid] at count
  rcases entries.ongoing_or_exits ongoing with still | ⟨loud, exits⟩
  · exact absurd exited still.embargo
  · rw [exits.count] at count
    cases loud with
    | true => cases count
    | false => exact exits

end Messages

end Record

/-! ## Histories -/

/-- An axis whose state leads nowhere stays as it is. -/
theorem Advances.eq_of_final {σ : Type} {leads : σ → σ → Prop}
    {now : σ} {history : List σ} {axis : σ × List σ}
    (path : Advances leads (now, history) axis)
    (final : ∀ next, ¬ leads now next) :
    axis = (now, history) := by
  rcases Relation.ReflTransGen.cases_head path with same | ⟨_, moves, _⟩
  · exact same.symm
  · cases moves with
    | move legal => exact absurd legal (final _)

/-- An embargo is exited out of being in force. -/
theorem EmbargoState.inForce_of_leads {state : EmbargoState}
    (leads : state.Leads .exited) :
    state ∈ [active, revise] := by
  rcases leads with ⟨_, move, starts, target⟩
  rw [EmbargoMove.eq_terminate_of_target target.symm] at starts
  exact starts

/-- The history of an embargo that is over tells out of what it was exited. -/
theorem Recorded.exit {history : List EmbargoState} {now : EmbargoState}
    (recorded : Recorded EmbargoState.Leads .noEmbargo (now, history))
    (exited : now = .exited) :
    ∃ earlier, ∃ last ∈ [EmbargoState.active, .revise],
      history = earlier ++ [last, .exited] := by
  rcases recorded with ⟨begins, chain, ends⟩
  simp only [exited] at begins chain ends
  obtain ⟨before, split⟩ := List.getLast?_eq_some_iff.mp ends
  rcases List.eq_nil_or_concat' before with rfl | ⟨earlier, last, rfl⟩
  · rw [split] at begins
    cases begins
  · rw [List.append_assoc] at split
    rw [split] at chain
    have leads := (List.isChain_append_cons_cons.mp chain).2.1
    exact ⟨earlier, last, EmbargoState.inForce_of_leads leads, split⟩

/-! ## Runs -/

namespace Actor

variable {actor : Actor}

/-- A run makes entries in the record of the actor, and nothing else. -/
theorem Live.entries_of_play (live : actor.Live) (events : List Event) :
    (actor.play events).Live ∧
      Entries actor.state.record (actor.play events).state.record := by
  have entered : actor.Has fun state =>
      Entries actor.state.record state.record :=
    ⟨live, .refl⟩
  refine entered.play (.of_entries ?_) events
  intro before after path entry
  exact path.tail entry

/-- A run moves the embargo only as embargoes move. -/
theorem Live.embargo_of_play (live : actor.Live) (events : List Event) :
    Advances EmbargoState.Leads actor.state.embargoAxis
      (actor.play events).state.embargoAxis := by
  have advanced : actor.Has fun state =>
      Advances EmbargoState.Leads actor.state.embargoAxis
        state.embargoAxis :=
    ⟨live, .refl⟩
  refine (advanced.play (.of_progress ?_) events).2
  intro before after path progress
  exact path.trans progress.embargo

end Actor

namespace ActorState

/-- What a run may do about an embargo until some messages more were sent: it is
exited once, and this is announced once at most. -/
structure ExitsOnce (messages : List Message) (before after : ActorState) :
    Prop where
  sent : after.sent.toList = before.sent.toList ++ messages
  once : (after.sent.toList.map Message.type).count .embargoTerminated ≤ 1
  history : after.embargo = .exited →
    ∃ earlier, ∃ last ∈ [EmbargoState.active, .revise],
      after.embargoHistory = earlier ++ [last, .exited]
  /-- Whoever announces the end has just come to it. -/
  announced : .embargoTerminated ∈ messages.map Message.type →
    before.embargo ≠ .exited ∧ Exits true before.record after.record
  /-- Without an announcement somebody else has ended it. -/
  followed : .embargoTerminated ∉ messages.map Message.type →
    before.embargo ≠ .exited → after.embargo = .exited →
      Exits false before.record after.record
  /-- Nothing comes after the end. -/
  final : before.embargo = .exited →
    after.embargo = .exited ∧
      after.embargoHistory = before.embargoHistory ∧
      ∀ message ∈ messages, message.type ∉
        [.embargoProposal, .embargoRejected, .embargoAccepted,
          .revisionProposal, .revisionRejected, .revisionAccepted,
          .embargoTerminated]

end ActorState

open ActorState

theorem Actor.Live.exits_once {actor : Actor}
    (live : actor.Live)
    (begun : actor.state.record.Ongoing)
    (recorded : Recorded EmbargoState.Leads .noEmbargo
      actor.state.embargoAxis)
    (events more : List Event) :
    ∃ messages, ExitsOnce messages (actor.play events).state
      (actor.play (events ++ more)).state := by
  rw [play_append]
  obtain ⟨liveThen, past⟩ := live.entries_of_play events
  have path := (liveThen.entries_of_play more).2
  have moves := liveThen.embargo_of_play more
  have recordedThen := recorded.advances
    ((live.embargo_of_play events).trans moves)
  obtain ⟨messages, sent⟩ := path.sent_prefix
  refine ⟨messages, ?_⟩
  constructor
  case sent => exact sent.symm
  case once =>
    have once := begun.count_le_one (past.trans path)
    exact (count_about _ .embargoTerminated).symm.trans_le once
  case history => exact recordedThen.exit
  case announced =>
    intro said
    -- After the end nothing is said about terms, not even the end.
    have unfinished : (actor.play events).state.embargo ≠ .exited := by
      intro exited
      rcases List.mem_map.mp said with ⟨message, among, type⟩
      have leaves := path.leaves_exited exited
      apply leaves.no_terms sent.symm message among
      rw [type]
      rfl
    have ongoing := begun.still past unfinished
    exact ⟨unfinished, ongoing.exits_of_said sent.symm path said⟩
  case followed =>
    intro unsaid unfinished exited
    have ongoing := begun.still past unfinished
    exact ongoing.exits_of_unsaid sent.symm path exited unsaid
  case final =>
    intro exited
    have leaves := path.leaves_exited exited
    have axis := Advances.eq_of_final moves
      (exited ▸ EmbargoState.exited_leads_nowhere)
    refine ⟨leaves.embargo.trans exited, congrArg Prod.snd axis, ?_⟩
    intro message among
    rw [← MessageType.topic_eq_terms_iff]
    exact leaves.no_terms sent.symm message among

/--
An embargo is exited once and for all, whatever deliveries and ticks an actor goes
through and whatever is decided.  From any moment of a run to any later one: an
"ET" is sent only together with a move from an embargo in force, and only once;
and from an exited embargo nothing moves any more, and no message about its terms
is sent.
-/
theorem exited_embargo_is_final
    (name : String)
    (roles : Roles)
    (abilities : Capabilities)
    (chance : Chance)
    (policy : Policy) :
    ∃ actor, Actor.start name roles abilities chance policy = .ok actor ∧
      ∀ events more : List Actor.Event,
        ∃ messages, ExitsOnce messages (actor.play events).state
          (actor.play (events ++ more)).state := by
  obtain ⟨actor, started, live, begins⟩ :=
    Actor.exists_start name roles abilities chance policy
  have begun : actor.state.record.Ongoing := by
    rw [begins]
    exact .beginning name roles abilities
  have recorded : Recorded EmbargoState.Leads .noEmbargo
      actor.state.embargoAxis := by
    rw [begins]
    exact .beginning _ _
  exact ⟨actor, started, live.exits_once begun recorded⟩

end Disclosure
