import Disclosure.Proofs.Simulation.Routing
import Disclosure.Simulation.Router

/-!
# What the router puts into mailboxes

Names are registered and retired, and messages are routed, in any order.  Seen
from one name, the router has three phases: first the name is awaited and its
messages are held, then somebody is present under it, and in the end its bearer
is gone.  No operation on another name has a part in it.  So a name is registered
once at most, and its mailbox holds a part of the messages that were routed, in
their order.  A mailbox that nobody attends any more when it is registered stays
empty.
-/

namespace Disclosure.Router

/-! ## Operations -/

/-- What can be done to a router, one thing at a time. -/
inductive Operation where
  /-- Register a name with a new mailbox, which somebody attends or nobody any
  more. -/
  | register (name : String) (attended : Bool)
  | retire (name : String)
  | route (message : Message)

namespace Operation

/-- The message that is routed, if one is. -/
def message? : Operation → Option Message
  | route message => some message
  | _ => none

/-- Whether the bearer of this name leaves. -/
def retires (name : String) : Operation → Bool
  | retire other => other == name
  | _ => false

@[simp]
theorem retires_retire (name other : String) :
    (retire other).retires name = (other == name) := rfl

end Operation

/-- The router after an operation. -/
def perform (router : Router) : Operation → Router
  | .register name attended => (router.register name attended).2
  | .retire name => router.retire name
  | .route message => router.route message

/-- A new router after several operations, one after the other. -/
def performAll (operations : List Operation) : Router :=
  operations.foldl perform .empty

/-- The messages that were routed, the oldest first. -/
def routed (operations : List Operation) : List Message :=
  operations.filterMap Operation.message?

@[simp]
theorem routed_nil : routed [] = [] := rfl

@[simp]
theorem routed_register (name : String) (attended : Bool)
    (later : List Operation) :
    routed (.register name attended :: later) = routed later := rfl

@[simp]
theorem routed_retire (name : String) (later : List Operation) :
    routed (.retire name :: later) = routed later := rfl

@[simp]
theorem routed_route (message : Message) (later : List Operation) :
    routed (.route message :: later) = message :: routed later := rfl

/-! ## Phases -/

/-- How things stand with a name. -/
inductive Phase where
  /-- Nobody has come under the name yet, and its messages are held. -/
  | awaited (held : List Message)
  /-- Somebody is there and gets mail, as long as the mailbox is attended. -/
  | present (attended : Bool) (mail : List Message)
  /-- Nobody comes under the name any more; there may be mail from before. -/
  | gone (mail : List Message)

namespace Phase

/-- The content of the mailbox of the name. -/
def mail : Phase → List Message
  | awaited _ => []
  | present _ mail => mail
  | gone mail => mail

/-- Whether the name can still be registered. -/
def isAwaited : Phase → Bool
  | awaited _ => true
  | present .. => false
  | gone _ => false

def isPresent : Phase → Bool
  | awaited _ => false
  | present .. => true
  | gone _ => false

/-- With more mail for somebody who is present, if the mailbox is attended. -/
def deposit (messages : List Message) : Phase → Phase
  | awaited held => awaited held
  | present true mail => present true (mail ++ messages)
  | present false mail => present false mail
  | gone mail => gone mail

/-- With more mail held for a name that is awaited. -/
def withhold (messages : List Message) : Phase → Phase
  | awaited held => awaited (held ++ messages)
  | present attended mail => present attended mail
  | gone mail => gone mail

@[simp]
theorem deposit_nil (phase : Phase) : phase.deposit [] = phase := by
  cases phase with
  | awaited | gone => rfl
  | present attended mail => cases attended <;> simp [deposit]

@[simp]
theorem withhold_nil (phase : Phase) : phase.withhold [] = phase := by
  cases phase <;> simp [withhold]

/-- The phase of a name after an operation. -/
def next (name : String) : Phase → Operation → Phase
  | awaited held, .register other attended =>
    if other = name then present attended (if attended then held else [])
    else awaited held
  | awaited held, .retire other =>
    if other = name then gone [] else awaited held
  | awaited held, .route message =>
    awaited (held ++ [message].filter (isFor name))
  | present attended mail, .register .. => present attended mail
  | present attended mail, .retire other =>
    if other = name then gone mail else present attended mail
  | present attended mail, .route message =>
    (present attended mail).deposit ([message].filter (Message.isFor name))
  | gone mail, _ => gone mail

/-- The phase after several operations. -/
def nextAll (name : String) (phase : Phase) (operations : List Operation) :
    Phase :=
  operations.foldl (next name) phase

end Phase

/-! ## The router as seen from one name -/

section View

variable {router : Router} {name other : String} {message : Message}
  {attended : Bool}

/-- All mailboxes that were ever registered under a name. -/
def boxes (router : Router) (name : String) : List Mailbox :=
  router.mailboxes.filter fun mailbox => mailbox.name == name

theorem isRegistered_eq_any (router : Router) (name : String) :
    router.isRegistered name =
      (router.boxes name).any Mailbox.registered := by
  simp only [isRegistered, mailbox?, boxes, List.isSome_find?, List.any_filter,
    Bool.and_comm]

@[simp]
theorem retired_register (router : Router) (name : String)
    (attended : Bool) :
    (router.register name attended).2.retired = router.retired := by
  rw [register]
  split <;> rfl

/-- Who is refused changes nothing. -/
theorem register_of_refused
    (refused : (router.register name attended).1 ≠ true) :
    (router.register name attended).2 = router := by
  rw [register] at refused ⊢
  split
  · rfl
  · rw [if_neg ‹_›] at refused
    exact (refused rfl).elim

theorem boxes_register (name : String)
    (accepted : (router.register other attended).1 = true) :
    (router.register other attended).2.boxes name =
      router.boxes name ++
        if other = name then
          [⟨other,
            if attended then router.held.filter (isFor other) else [],
            attended, true⟩]
        else [] := by
  rw [register] at accepted ⊢
  split at accepted
  · cases accepted
  · rw [if_neg ‹_›]
    by_cases same : other = name
    · simp [boxes, same]
    · simp [boxes, same]

/-- What is held for one name is not given to another. -/
theorem held_register_other (attended : Bool) (different : other ≠ name) :
    (router.register other attended).2.held.filter (isFor name) =
      router.held.filter (isFor name) := by
  rw [register]
  split
  · rfl
  · simp only [List.filter_filter]
    apply List.filter_congr
    intro message _
    by_cases direct : message.recipient = some name
    · simp [isFor, direct, different.symm]
    · simp [isFor, direct]

/-- What changes no name goes on separately under each of them. -/
theorem boxes_map {change : Mailbox → Mailbox} {mailboxes : List Mailbox}
    (keepsName : ∀ mailbox, (change mailbox).name = mailbox.name) :
    (mailboxes.map change).filter (fun mailbox => mailbox.name == name) =
      (mailboxes.filter fun mailbox => mailbox.name == name).map change := by
  rw [List.filter_map]
  congr 1
  apply List.filter_congr
  intro mailbox _
  rw [Function.comp_apply, keepsName]

theorem boxes_retire (router : Router) (other name : String) :
    (router.retire other).boxes name =
      (router.boxes name).map fun mailbox =>
        if mailbox.name = other then { mailbox with registered := false }
        else mailbox := by
  apply boxes_map
  intro mailbox
  split <;> rfl

theorem retired_retire (router : Router) (other name : String) :
    (router.retire other).retired.contains name =
      (decide (other = name) || router.retired.contains name) := by
  simp only [retire]
  by_cases same : other = name
  · subst same
    split
    · simp_all
    · simp
  · split
    · simp [same]
    · simp [same, Ne.symm same]

theorem boxes_deliver (router : Router) (message : Message)
    (selects : Mailbox → Bool) (name : String) :
    (router.deliver message selects).boxes name =
      post message (fun mailbox => mailbox.registered && selects mailbox)
        (router.boxes name) := by
  apply boxes_map
  intro mailbox
  split <;> rfl

/-- Nothing is put into mailboxes that the test does not select. -/
theorem post_of_unselected {selects : Mailbox → Bool}
    {mailboxes : List Mailbox}
    (unselected : ∀ mailbox ∈ mailboxes, selects mailbox = false) :
    post message selects mailboxes = mailboxes := by
  rw [post]
  conv_rhs => rw [← List.map_id mailboxes]
  apply List.map_congr_left
  intro mailbox among
  simp [unselected mailbox among]

end View

/-! ## One operation -/

/-- The router agrees with the phase of a name. -/
def StandsAt (router : Router) (name : String) : Phase → Prop
  | .awaited held =>
    router.boxes name = [] ∧ router.retired.contains name = false ∧
      router.held.filter (isFor name) = held
  | .present attended mail =>
    router.boxes name = [⟨name, mail, attended, true⟩] ∧
      router.retired.contains name = false
  | .gone mail =>
    (router.boxes name).flatMap Mailbox.mail = mail ∧
      (∀ mailbox ∈ router.boxes name, mailbox.registered = false) ∧
      router.retired.contains name = true

namespace StandsAt

variable {router : Router} {name other : String} {message : Message}
  {phase : Phase} {attended : Bool}

/-- Exactly a name that somebody is present under is registered. -/
theorem isRegistered_eq (stands : router.StandsAt name phase) :
    router.isRegistered name = phase.isPresent := by
  rw [isRegistered_eq_any]
  cases phase with
  | awaited held =>
    rw [stands.1]
    rfl
  | present attended mail =>
    rw [stands.1]
    rfl
  | gone mail =>
    rw [Phase.isPresent, List.any_eq_false]
    intro mailbox among
    rw [stands.2.1 mailbox among]
    decide

/-- Exactly the names that are awaited can be registered. -/
theorem register_accepts (stands : router.StandsAt name phase)
    (attended : Bool) :
    (router.register name attended).1 = phase.isAwaited := by
  have taken : (router.isRegistered name || router.retired.contains name) =
      !phase.isAwaited := by
    rw [stands.isRegistered_eq]
    cases phase with
    | awaited held => exact stands.2.1
    | present => rfl
    | gone mail => exact stands.2.2
  rw [Router.register, taken]
  cases phase <;> rfl

/-- To register one name has no part in any other. -/
theorem register_other (stands : router.StandsAt name phase)
    (attended : Bool) (different : other ≠ name) :
    (router.register other attended).2.StandsAt name phase := by
  by_cases accepted : (router.register other attended).1 = true
  · have boxes := boxes_register name accepted
    rw [if_neg different, List.append_nil] at boxes
    cases phase with
    | awaited | present | gone =>
      simpa only [StandsAt, boxes, retired_register,
        held_register_other attended different] using stands
  · rw [register_of_refused accepted]
    exact stands

theorem register (stands : router.StandsAt name phase) (other : String)
    (attended : Bool) :
    (router.register other attended).2.StandsAt name
      (phase.next name (.register other attended)) := by
  by_cases same : other = name
  · subst same
    have accepts := stands.register_accepts attended
    cases phase with
    | awaited held =>
      have boxes := boxes_register other accepts
      rw [if_pos rfl, stands.1, stands.2.2] at boxes
      rw [Phase.next, if_pos rfl]
      refine ⟨boxes, ?_⟩
      rw [retired_register]
      exact stands.2.1
    | present | gone =>
      rw [register_of_refused (by simp [accepts, Phase.isAwaited])]
      exact stands
  · have unchanged : phase.next name (.register other attended) = phase := by
      cases phase with
      | awaited held => rw [Phase.next, if_neg same]
      | present | gone => rfl
    rw [unchanged]
    exact stands.register_other attended same

theorem retire (stands : router.StandsAt name phase) (other : String) :
    (router.retire other).StandsAt name (phase.next name (.retire other)) := by
  have boxes := boxes_retire router other name
  have gone := retired_retire router other name
  cases phase with
  | awaited held =>
    rw [stands.1] at boxes
    rw [stands.2.1, Bool.or_false] at gone
    by_cases same : other = name
    · rw [Phase.next, if_pos same]
      refine ⟨by rw [boxes]; rfl, by rw [boxes]; simp, ?_⟩
      rw [gone, decide_eq_true same]
    · rw [Phase.next, if_neg same]
      refine ⟨boxes, ?_, stands.2.2⟩
      rw [gone, decide_eq_false same]
  | present attended mail =>
    rw [stands.1] at boxes
    rw [stands.2, Bool.or_false] at gone
    by_cases same : other = name
    · rw [Phase.next, if_pos same]
      have left : (router.retire other).boxes name =
          [⟨name, mail, attended, false⟩] := by
        rw [boxes]
        simp [same]
      refine ⟨by rw [left]; simp, by rw [left]; simp, ?_⟩
      rw [gone, decide_eq_true same]
    · rw [Phase.next, if_neg same]
      refine ⟨by rw [boxes]; simp [Ne.symm same], ?_⟩
      rw [gone, decide_eq_false same]
  | gone mail =>
    refine ⟨?_, ?_, ?_⟩
    · rw [boxes, List.flatMap_map, ← stands.1]
      congr 1
      funext mailbox
      split <;> rfl
    · intro mailbox among
      rw [boxes] at among
      rcases List.mem_map.mp among with ⟨before, found, rfl⟩
      split
      · rfl
      · exact stands.2.1 before found
    · rw [gone, stands.2.2, Bool.or_true]

/-! ### Routing -/

/-- Delivering puts the message into the attended mailbox of a name that
somebody is present under, if it is wanted there, and has no part in any other
phase. -/
theorem deliver (stands : router.StandsAt name phase)
    (message : Message)
    (selects : Mailbox → Bool)
    (wanted : Bool)
    (selected : ∀ mailbox : Mailbox, mailbox.name = name →
      selects mailbox = wanted) :
    (router.deliver message selects).StandsAt name
      (phase.deposit (if wanted then [message] else [])) := by
  have boxes := boxes_deliver router message selects name
  cases phase with
  | awaited held =>
    rw [stands.1] at boxes
    exact ⟨boxes, stands.2⟩
  | present attended mail =>
    rw [stands.1] at boxes
    have here : selects ⟨name, mail, attended, true⟩ = wanted :=
      selected _ rfl
    cases attended with
    | false =>
      refine ⟨?_, stands.2⟩
      rw [boxes]
      simp [post]
    | true =>
      refine ⟨?_, stands.2⟩
      rw [boxes]
      cases wanted <;> simp [post, here]
  | gone mail =>
    rw [post_of_unselected fun mailbox among => by
      rw [stands.2.1 mailbox among, Bool.false_and]] at boxes
    rw [Phase.deposit]
    refine ⟨?_, ?_, stands.2.2⟩
    · rw [boxes]
      exact stands.1
    · rw [boxes]
      exact stands.2.1

/-- What becomes of the counters is not seen from any name. -/
theorem drop (stands : router.StandsAt name phase) (dropped : Nat) :
    StandsAt { router with dropped := dropped } name phase := by
  cases phase with
  | awaited | present | gone => exact stands

/-- To hold a message for somebody has a part only for an awaited name. -/
theorem hold (stands : router.StandsAt name phase) (message : Message) :
    StandsAt { router with held := router.held ++ [message] } name
      (phase.withhold ([message].filter (Router.isFor name))) := by
  cases phase with
  | awaited held =>
    refine ⟨stands.1, stands.2.1, ?_⟩
    rw [List.filter_append, stands.2.2]
  | present | gone => exact stands

/-- A broadcast is for everybody who is present under another name. -/
theorem route_broadcast (stands : router.StandsAt name phase)
    (broadcast : message.recipient = none) :
    (router.route message).StandsAt name
      (phase.next name (.route message)) := by
  have nobody : Router.isFor name message = false := by
    rw [Router.isFor, broadcast]
    rfl
  have delivered := stands.deliver message
    (fun mailbox => mailbox.name != message.sender)
    (message.isFor name) fun mailbox mine => by
      rw [Message.isFor, broadcast, mine]
      exact bne_comm
  rw [Router.route, broadcast]
  cases phase with
  | awaited held =>
    rw [Phase.next, List.filter_cons_of_neg (by rw [nobody]; decide),
      List.filter_nil, List.append_nil]
    exact delivered
  | present attended mail =>
    rw [Phase.next, List.filter_cons, List.filter_nil]
    exact delivered
  | gone mail => exact delivered

/-- A direct message has no part for anybody but its recipient. -/
theorem route_other (stands : router.StandsAt name phase)
    (direct : message.recipient = some other)
    (different : other ≠ name) :
    (router.route message).StandsAt name phase := by
  have foreign : Router.isFor name message = false := by
    simp [Router.isFor, direct, different]
  rw [Router.route, direct]
  dsimp only
  split
  · exact stands.drop _
  · split
    · have delivered := stands.deliver message
        (fun mailbox => mailbox.name == other)
        false fun mailbox mine => by
          simp [mine, Ne.symm different]
      rw [if_neg (by decide), Phase.deposit_nil] at delivered
      exact delivered
    · have held := stands.hold message
      rw [List.filter_cons_of_neg (by rw [foreign]; decide),
        List.filter_nil, Phase.withhold_nil] at held
      exact held

/-- A direct message is held, put into the mailbox or dropped, as things stand
with its recipient. -/
theorem route_own (stands : router.StandsAt name phase)
    (direct : message.recipient = some name) :
    (router.route message).StandsAt name
      (phase.next name (.route message)) := by
  have own : Router.isFor name message = true := by
    simp [Router.isFor, direct]
  have addressed : message.isFor name = true := by
    simp [Message.isFor, direct]
  have registered := stands.isRegistered_eq
  rw [Router.route, direct]
  dsimp only
  cases phase with
  | awaited held =>
    rw [if_neg (Bool.eq_false_iff.mp stands.2.1),
      if_neg (Bool.eq_false_iff.mp registered)]
    exact stands.hold message
  | present attended mail =>
    rw [if_neg (Bool.eq_false_iff.mp stands.2),
      if_pos (show router.isRegistered name = true from registered)]
    have delivered := stands.deliver message
      (fun mailbox => mailbox.name == name)
      true fun mailbox mine => by simp [mine]
    rw [Phase.next, List.filter_cons_of_pos addressed]
    exact delivered
  | gone mail =>
    rw [if_pos stands.2.2]
    exact stands.drop _

theorem route (stands : router.StandsAt name phase) (message : Message) :
    (router.route message).StandsAt name
      (phase.next name (.route message)) := by
  cases addressee : message.recipient with
  | none => exact stands.route_broadcast addressee
  | some recipient =>
    by_cases same : recipient = name
    · exact stands.route_own (addressee.trans (congrArg some same))
    · have unchanged : phase.next name (.route message) = phase := by
        cases phase with
        | awaited held => simp [Phase.next, Router.isFor, addressee, same]
        | present attended mail =>
          simp [Phase.next, Message.isFor, addressee, same]
        | gone => rfl
      rw [unchanged]
      exact stands.route_other addressee same

/-! ### Several operations -/

theorem perform (stands : router.StandsAt name phase)
    (operation : Operation) :
    (router.perform operation).StandsAt name (phase.next name operation) := by
  cases operation with
  | register other attended => exact stands.register other attended
  | retire other => exact stands.retire other
  | route message => exact stands.route message

theorem performAll (operations : List Operation) (name : String) :
    (Router.performAll operations).StandsAt name
      (Phase.nextAll name (.awaited []) operations) := by
  have general : ∀ (router : Router) (phase : Phase),
      router.StandsAt name phase →
        (operations.foldl Router.perform router).StandsAt name
          (phase.nextAll name operations) := by
    induction operations with
    | nil => exact fun _ _ stands => stands
    | cons operation later continues =>
      exact fun router phase stands =>
        continues _ _ (stands.perform operation)
  exact general .empty (.awaited []) ⟨rfl, rfl, rfl⟩

/-- What is taken out of the mailbox of a name. -/
theorem drain (stands : router.StandsAt name phase) :
    (router.drain name).1 = phase.mail := by
  have content : (router.drain name).1 =
      (router.boxes name).flatMap Mailbox.mail := rfl
  rw [content]
  cases phase with
  | awaited held =>
    rw [stands.1]
    rfl
  | present attended mail =>
    rw [stands.1]
    exact List.append_nil mail
  | gone mail => exact stands.1

end StandsAt

/-! ## The course of the phases -/

namespace Phase

variable (name : String)

theorem nextAll_cons (phase : Phase) (operation : Operation)
    (later : List Operation) :
    nextAll name phase (operation :: later) =
      nextAll name (phase.next name operation) later := rfl

/-- Who is gone stays gone. -/
theorem nextAll_gone (mail : List Message) (operations : List Operation) :
    nextAll name (gone mail) operations = gone mail := by
  induction operations with
  | nil => rfl
  | cons operation later continues => exact continues

/-- A name that was registered does not become free again. -/
theorem nextAll_present_isAwaited (attended : Bool) (mail : List Message)
    (operations : List Operation) :
    (nextAll name (present attended mail) operations).isAwaited = false := by
  induction operations generalizing mail with
  | nil => rfl
  | cons operation later continues =>
    rw [nextAll_cons]
    cases operation with
    | register other others => exact continues mail
    | retire other =>
      rw [next]
      split
      · rw [nextAll_gone]
        rfl
      · exact continues mail
    | route message =>
      cases attended with
      | true => exact continues _
      | false => exact continues mail

/-- Somebody who is present and attends the mailbox gets mail until the name is
retired. -/
theorem nextAll_present (mail : List Message) (operations : List Operation) :
    (nextAll name (present true mail) operations).mail =
      mail ++ (routed (operations.takeWhile
        fun operation => !operation.retires name)).filter
          (Message.isFor name) := by
  induction operations generalizing mail with
  | nil => exact (List.append_nil mail).symm
  | cons operation later continues =>
    rw [nextAll_cons]
    cases operation with
    | register other attended => exact continues mail
    | retire other =>
      by_cases same : other = name
      · rw [next, if_pos same, nextAll_gone]
        simp [Phase.mail, same]
      · rw [next, if_neg same]
        simpa [List.takeWhile_cons, same] using continues mail
    | route message =>
      have rest := continues (mail ++ [message].filter (Message.isFor name))
      refine rest.trans ?_
      rw [List.append_assoc, ← List.filter_append]
      rfl

/-- A name is awaited until it is registered or retired, and what was routed to
it is held meanwhile. -/
theorem nextAll_awaited (held : List Message) (operations : List Operation) :
    ((nextAll name (awaited held) operations).isAwaited = true ↔
      (∀ attended, .register name attended ∉ operations) ∧
        .retire name ∉ operations) ∧
    ((nextAll name (awaited held) operations).isAwaited = true →
      nextAll name (awaited held) operations =
        awaited (held ++ (routed operations).filter (isFor name))) := by
  induction operations generalizing held with
  | nil => simp [nextAll, isAwaited]
  | cons operation later continues =>
    rw [nextAll_cons]
    cases operation with
    | register other attended =>
      by_cases same : other = name
      · subst same
        rw [next, if_pos rfl, nextAll_present_isAwaited]
        simp only [Bool.false_eq_true, false_iff, false_implies, and_true]
        exact fun unused => unused.1 attended List.mem_cons_self
      · rw [next, if_neg same]
        simpa [Ne.symm same] using continues held
    | retire other =>
      by_cases same : other = name
      · rw [next, if_pos same, nextAll_gone]
        simp [same, isAwaited]
      · rw [next, if_neg same]
        simpa [Ne.symm same] using continues held
    | route message =>
      have rest := continues (held ++ [message].filter (isFor name))
      rw [List.append_assoc, ← List.filter_append] at rest
      rw [next]
      simpa using rest

end Phase

/-! ## What a mailbox contains -/

/-- A name is accepted exactly if it was neither registered nor retired before,
so at most once.  Its mailbox, if somebody attends it, then holds the direct
messages that were routed before, and then whatever was routed to it or
broadcast under another name until it was retired, each once and in the order of
routing. -/
theorem register_accepts_and_delivers
    (before later : List Operation)
    (name : String) :
    (∀ attended,
      ((performAll before).register name attended).1 = true ↔
        (∀ earlier, .register name earlier ∉ before) ∧
          .retire name ∉ before) ∧
    (((performAll before).register name true).1 = true →
      ((performAll (before ++ .register name true :: later)).drain name).1 =
        (routed before).filter (isFor name) ++
          (routed (later.takeWhile
            fun operation => !operation.retires name)).filter
              (Message.isFor name)) := by
  have earlier := StandsAt.performAll before name
  have course := Phase.nextAll_awaited name [] before
  refine ⟨fun attended => ?_, fun accepted => ?_⟩
  · rw [earlier.register_accepts]
    exact course.1
  rw [earlier.register_accepts] at accepted
  have whole :=
    StandsAt.performAll (before ++ .register name true :: later) name
  rw [whole.drain, Phase.nextAll, List.foldl_append]
  have registered : Phase.nextAll name (.awaited []) before =
      .awaited ((routed before).filter (isFor name)) := course.2 accepted
  have begins : (Phase.nextAll name (.awaited []) before).next name
      (.register name true) =
        .present true ((routed before).filter (isFor name)) := by
    rw [registered, Phase.next, if_pos rfl, if_pos rfl]
  have continued := Phase.nextAll_present name
    ((routed before).filter (isFor name)) later
  rw [← begins] at continued
  exact continued

/-- A report waits for the vendor, who then gets what others broadcast and what
is sent to it until it leaves; its own broadcast and what comes later are not
for it. -/
theorem register_accepts_and_delivers_to_vendor :
    let report : Message :=
      ⟨.reportSubmission, "finder", some "vendor", .null⟩
    let question : Message := ⟨.inquiry, "finder", some "vendor", .null⟩
    let before : List Operation := [.register "finder" true, .route report]
    let later : List Operation :=
      [.route (.broadcast .fixReady "vendor"),
        .route (.broadcast .publicAware "finder"),
        .register "vendor" true, .route question, .retire "vendor",
        .route (.broadcast .exploitPublished "finder"), .route question]
    ((performAll before).register "vendor" true).1 = true ∧
      ((performAll
          (before ++ .register "vendor" true :: later)).drain "vendor").1 =
        [report, .broadcast .publicAware "finder", question] := by
  intro report question before later
  have accepted : ((performAll before).register "vendor" true).1 = true :=
    ((register_accepts_and_delivers before later "vendor").1 true).mpr
      ⟨by simp [before], by simp [before]⟩
  refine ⟨accepted, ?_⟩
  rw [(register_accepts_and_delivers before later "vendor").2 accepted]
  rfl

end Disclosure.Router
