import Disclosure.Proofs.Embargo.Agreement
import Disclosure.Proofs.Embargo.PublicCase

/-!
# What a message moves

The mail of an actor moves its report, its embargo and its case along, and most
of that depends on the type of a message and on where the actor stands, on
nothing else: a submission is received, a move of the embargo is followed in a
quiet case, whatever is said about an embargo in another case ends it, and so do
public news.  Which decisions are taken on the way does not matter, as long as
none is left pending and embargoes are exited where they shall be.

To heed the same message twice is the same as to heed it once.
-/

namespace Disclosure

/-- Where an actor stands on the three axes and how it came there, and whether it
is a vendor. -/
structure Position where
  vendor : Bool
  report : ReportState × List ReportState
  embargo : EmbargoState × List EmbargoState
  caseState : CaseState × List CaseState

namespace Position

/-! ## Moves -/

/-- Go to a state and write it down; staying leaves no trace. -/
def advance {σ : Type} [DecidableEq σ] (target : σ) (axis : σ × List σ) :
    σ × List σ :=
  if axis.1 = target then axis else (target, axis.2 ++ [target])

@[simp]
theorem advance_fst {σ : Type} [DecidableEq σ] (target : σ)
    (axis : σ × List σ) :
    (advance target axis).1 = target := by
  rw [advance]
  split
  case isTrue there => exact there
  case isFalse => rfl

theorem advance_of_there {σ : Type} [DecidableEq σ] {target : σ}
    {axis : σ × List σ} (there : axis.1 = target) :
    advance target axis = axis := by
  rw [advance, if_pos there]

/-- Move the report. -/
def toReport (target : ReportState) (position : Position) : Position :=
  { position with report := advance target position.report }

/-- Move the embargo. -/
def toEmbargo (target : EmbargoState) (position : Position) : Position :=
  { position with embargo := advance target position.embargo }

/-- Set a flag of the case. -/
def raise (flag : CaseFlag) (position : Position) : Position :=
  { position with
    caseState :=
      advance (position.caseState.1.insert flag) position.caseState }

theorem raise_of_has {flag : CaseFlag} {position : Position}
    (has : position.caseState.1.has flag = true) :
    position.raise flag = position := by
  rw [raise, advance_of_there (CaseState.insert_of_has has).symm]

theorem has_raise (flag other : CaseFlag) (position : Position) :
    (position.raise flag).caseState.1.has other =
      (flag == other || position.caseState.1.has other) := by
  rw [raise, advance_fst, CaseState.has_insert]

/-! ## What messages of a type do -/

/-- Whoever has no report receives one. -/
def receive (position : Position) : Position :=
  if position.report.1 = .start then position.toReport .received
  else position

/-- A vendor becomes aware. -/
def learn (position : Position) : Position :=
  if position.vendor then position.raise .vendorAware else position

/-- A proposal is withdrawn, and an embargo in force is exited. -/
def endEmbargo (position : Position) : Position :=
  match position.embargo.1 with
  | .proposed => position.toEmbargo .noEmbargo
  | .active | .revise => position.toEmbargo .exited
  | .noEmbargo | .exited => position

/-- What is said about an embargo is followed while the case is quiet, and ends
the embargo otherwise. -/
def discuss (type : MessageType) (position : Position) : Position :=
  if position.caseState.1.isQuiet then
    match EmbargoMove.following type position.embargo.1 with
    | some move => position.toEmbargo move.target
    | none => position
  else position.endEmbargo

/-- News set their flag; a published exploit makes the case public as well. -/
def hear (type : MessageType) (position : Position) : Position :=
  match type with
  | .publicAware => position.raise .publicAware
  | .exploitPublished => (position.raise .exploitPublic).raise .publicAware
  | .attacksObserved => position.raise .attacksObserved
  | _ => position

/-- What a message of a type does to whoever receives it. -/
def heed (type : MessageType) (position : Position) : Position :=
  match type.category with
  | .report =>
    if type = .reportSubmission then position.receive.learn else position
  | .embargo => if type.isReply then position else position.discuss type
  | .caseState =>
    if type ∈ Behavior.publicNews then (position.hear type).endEmbargo
    else position
  | .general => position

/-! ## Heeding the same message again -/

variable {position : Position} {type : MessageType}

theorem receive_of_received (received : position.report.1 ≠ .start) :
    position.receive = position := by
  rw [receive, if_neg received]

theorem receive_report (position : Position) :
    position.receive.report.1 ≠ .start := by
  rw [receive]
  split
  case isTrue =>
    rw [toReport, advance_fst]
    decide
  case isFalse received => exact received

theorem learn_report (position : Position) :
    position.learn.report = position.report := by
  rw [learn]
  split <;> rfl

theorem learn_learn (position : Position) :
    position.learn.learn = position.learn := by
  by_cases vendor : position.vendor = true
  · have aware : (position.raise .vendorAware).caseState.1.has .vendorAware =
        true := by
      rw [has_raise]
      rfl
    have learned : position.learn = position.raise .vendorAware := by
      rw [learn, if_pos vendor]
    have vendorStill : (position.raise .vendorAware).vendor = true := vendor
    rw [learned, learn, if_pos vendorStill, raise_of_has aware]
  · have same : position.learn = position := by
      rw [learn, if_neg vendor]
    rw [same, same]

theorem endEmbargo_of_absent
    (absent : position.embargo.1 ∈ [.noEmbargo, .exited]) :
    position.endEmbargo = position := by
  rcases List.mem_pair.mp absent with stands | stands <;>
    simp [endEmbargo, stands]

/-- What exits an embargo, or finds it exited, ends it. -/
theorem toEmbargo_exited
    (stands : position.embargo.1 ∈ [.exited, .active, .revise]) :
    position.toEmbargo .exited = position.endEmbargo := by
  simp only [List.mem_cons, List.not_mem_nil, or_false] at stands
  rcases stands with exited | active | revising
  · rw [toEmbargo, advance_of_there exited,
      endEmbargo_of_absent (by simp [exited])]
  · rw [endEmbargo, active]
  · rw [endEmbargo, revising]

/-- What withdraws a proposal, or finds none, ends the embargo. -/
theorem toEmbargo_noEmbargo
    (stands : position.embargo.1 ∈ [.noEmbargo, .proposed]) :
    position.toEmbargo .noEmbargo = position.endEmbargo := by
  rcases List.mem_pair.mp stands with none | proposed
  · rw [toEmbargo, advance_of_there none, endEmbargo_of_absent (by simp [none])]
  · rw [endEmbargo, proposed]

theorem endEmbargo_absent (position : Position) :
    position.endEmbargo.embargo.1 ∈ [.noEmbargo, .exited] := by
  rcases stands : position.embargo.1 with _ | _ | _ | _ | _ <;>
    simp [endEmbargo, stands, toEmbargo]

theorem endEmbargo_caseState (position : Position) :
    position.endEmbargo.caseState = position.caseState := by
  rw [endEmbargo]
  split <;> rfl

/-- A move that follows a message leads where the message calls for no move. -/
theorem following_target {type : MessageType} {state : EmbargoState}
    {move : EmbargoMove}
    (follows : EmbargoMove.following type state = some move) :
    EmbargoMove.following type move.target = none := by
  revert follows
  cases type <;> cases state <;> simp [EmbargoMove.following] <;>
    rintro rfl <;> rfl

theorem discuss_discuss (type : MessageType) (position : Position) :
    (position.discuss type).discuss type = position.discuss type := by
  by_cases quiet : position.caseState.1.isQuiet = true
  · cases follows : EmbargoMove.following type position.embargo.1 with
    | none =>
      have same : position.discuss type = position := by
        rw [discuss, if_pos quiet, follows]
      rw [same, same]
    | some move =>
      have moved : position.discuss type = position.toEmbargo move.target := by
        rw [discuss, if_pos quiet, follows]
      have quietStill :
          (position.toEmbargo move.target).caseState.1.isQuiet = true := quiet
      rw [moved, discuss, if_pos quietStill, toEmbargo, advance_fst,
        following_target follows]
  · have ended : position.discuss type = position.endEmbargo := by
      rw [discuss, if_neg quiet]
    rw [ended, discuss, endEmbargo_caseState, if_neg quiet,
      endEmbargo_of_absent (endEmbargo_absent position)]

/-- News that were heard before are nothing new, whatever became of the embargo
meanwhile. -/
theorem hear_endEmbargo_hear (type : MessageType) (position : Position) :
    ((position.hear type).endEmbargo).hear type =
      (position.hear type).endEmbargo := by
  have known : ∀ flag, (position.hear type).caseState.1.has flag = true →
      ((position.hear type).endEmbargo).raise flag =
        (position.hear type).endEmbargo := by
    intro flag has
    apply raise_of_has
    rw [endEmbargo_caseState]
    exact has
  rw [hear.eq_def type (position.hear type).endEmbargo]
  split
  case h_1 => exact known _ (by simp [hear, has_raise])
  case h_2 =>
    rw [known _ (by simp [hear, has_raise]), known _ (by simp [hear, has_raise])]
  case h_3 => exact known _ (by simp [hear, has_raise])
  case h_4 => rfl

/-- To heed a message of the same type again changes nothing. -/
theorem heed_heed (type : MessageType) (position : Position) :
    (position.heed type).heed type = position.heed type := by
  have received : (position.receive.learn).receive = position.receive.learn := by
    apply receive_of_received
    rw [learn_report]
    exact receive_report position
  cases category : type.category with
  | report =>
    by_cases submission : type = .reportSubmission
    · simp only [heed, category, if_pos submission, received, learn_learn]
    · simp only [heed, category, if_neg submission]
  | embargo =>
    by_cases reply : type.isReply = true
    · simp only [heed, category, if_pos reply]
    · simp only [heed, category, if_neg reply, discuss_discuss]
  | caseState =>
    by_cases news : type ∈ Behavior.publicNews
    · simp only [heed, category, if_pos news, hear_endEmbargo_hear]
      exact endEmbargo_of_absent (endEmbargo_absent _)
    · simp only [heed, category, if_neg news]
  | general => simp only [heed, category]

/-- An acknowledgement calls for nothing. -/
theorem heed_of_isAck (ack : type.isAck = true) (position : Position) :
    position.heed type = position := by
  cases type <;> cases ack <;> rfl

/-! ## One message after the other -/

/-- Heed messages in the order of their arrival. -/
def heedAll (messages : List Message) (position : Position) : Position :=
  messages.foldl (fun position message => position.heed message.type) position

@[simp]
theorem heedAll_cons (message : Message) (messages : List Message)
    (position : Position) :
    position.heedAll (message :: messages) =
      (position.heed message.type).heedAll messages :=
  rfl

theorem heedAll_append (messages others : List Message) (position : Position) :
    position.heedAll (messages ++ others) =
      (position.heedAll messages).heedAll others :=
  List.foldl_append

/-- A message that comes twice in a row is as good as one that comes once. -/
theorem heedAll_redelivered (earlier later : List Message) (message : Message)
    (position : Position) :
    position.heedAll (earlier ++ message :: message :: later) =
      position.heedAll (earlier ++ message :: later) := by
  simp only [heedAll_append, heedAll_cons, heed_heed]

/-- A vendor that is offered an embargo twice withdraws it once, when an exploit
is published. -/
example :
    (heedAll
      [.broadcast .reportSubmission "finder",
       .broadcast .embargoProposal "finder",
       .broadcast .embargoProposal "finder",
       .broadcast .exploitPublished "finder"]
      ⟨true, (.start, []), (.noEmbargo, []), (.initial, [])⟩).embargo =
        (.noEmbargo, [.proposed, .noEmbargo]) := by
  decide

end Position

namespace ActorState

variable {state : ActorState}

/-- Where the actor stands. -/
def position (state : ActorState) : Position where
  vendor := state.roles.vendor
  report := (state.report, state.reportHistory)
  embargo := (state.embargo, state.embargoHistory)
  caseState := (state.caseState, state.caseHistory)

/-! ## Changes of an actor and moves of its position -/

@[simp]
theorem position_broadcast (type : MessageType) (state : ActorState) :
    (state.broadcast type).position = state.position :=
  rfl

@[simp]
theorem position_decide (decision : Decision) (state : ActorState) :
    (state.decide decision).2.position = state.position :=
  rfl

theorem position_moveReport (target : ReportState) (state : ActorState) :
    (state.moveReport target).position = state.position.toReport target := by
  by_cases stays : state.report = target
  · simp [moveReport, stays, Position.toReport, Position.advance, position]
  · simp [moveReport, stays, Position.toReport, Position.advance, position]

theorem position_moveEmbargo (target : EmbargoState) (state : ActorState) :
    (state.moveEmbargo target).position = state.position.toEmbargo target := by
  by_cases stays : state.embargo = target
  · simp [moveEmbargo, stays, Position.toEmbargo, Position.advance, position]
  · simp [moveEmbargo, stays, Position.toEmbargo, Position.advance, position]

theorem position_setFlag (flag : CaseFlag) (state : ActorState) :
    (state.setFlag flag).position = state.position.raise flag := by
  by_cases stays : state.caseState = state.caseState.insert flag
  · simp [setFlag, moveCase, ← stays, Position.raise, Position.advance, position]
  · simp [setFlag, moveCase, stays, Position.raise, Position.advance, position]

theorem position_learn (state : ActorState) :
    state.learn.position = state.position.learn := by
  have vendorThere : state.position.vendor = state.roles.vendor := rfl
  rw [learn, Position.learn, vendorThere]
  by_cases vendor : state.roles.vendor = true
  case neg => rw [if_neg (fun both => vendor both.1), if_neg vendor]
  by_cases aware : state.caseState.vendorAware = true
  · have awareThere : state.position.caseState.1.has .vendorAware = true := aware
    rw [if_neg (by simp [aware]), if_pos vendor,
      Position.raise_of_has awareThere]
  · rw [if_pos (by simp [vendor, aware]), if_pos vendor, position_broadcast,
      position_setFlag]

theorem position_takeSubmission (state : ActorState) :
    state.takeSubmission.position = state.position.receive.learn := by
  rw [takeSubmission, position_learn, Position.receive]
  by_cases started : state.report = .start
  · rw [if_pos started, if_pos (by exact started), position_moveReport]
  · rw [if_neg started, if_neg (by exact started)]

theorem position_goPublic (state : ActorState) :
    state.goPublic.position = state.position.raise .publicAware := by
  rw [goPublic]
  split
  case isTrue known => rw [Position.raise_of_has (by exact known)]
  case isFalse => rw [position_broadcast, position_setFlag]

theorem position_hearNews (type : MessageType) (state : ActorState) :
    (state.hearNews type).position = state.position.hear type := by
  cases type
  case publicAware => exact position_setFlag .publicAware state
  case exploitPublished =>
    exact (position_goPublic _).trans
      (congrArg _ (position_setFlag .exploitPublic state))
  case attacksObserved => exact position_setFlag .attacksObserved state
  all_goals rfl

/-- Where embargoes are exited, what becomes of the embargo is settled. -/
theorem EndsEmbargo.position {before after : ActorState}
    (ends : EndsEmbargo before after)
    (exits : before.arbiter.policy.Exits) :
    after.position = before.position.endEmbargo := by
  cases ends with
  | nothing absent => exact (Position.endEmbargo_of_absent absent).symm
  | withdraw proposed =>
    have stands : before.position.embargo.1 = .proposed := proposed
    rw [announce, position_broadcast, position_moveEmbargo, Position.endEmbargo,
      stands]
    rfl
  | terminate inForce =>
    rw [announce, position_broadcast, position_moveEmbargo, position_decide,
      Position.endEmbargo]
    rcases List.mem_pair.mp inForce with stands | stands
    · have standsThere : before.position.embargo.1 = .active := stands
      rw [standsThere]
      rfl
    · have standsThere : before.position.embargo.1 = .revise := stands
      rw [standsThere]
      rfl
  | refused _ kept => exact (kept (exits _ _)).elim

end ActorState

end Disclosure
