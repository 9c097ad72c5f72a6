import Disclosure.Proofs.Router.Mailboxes
import Mathlib.Data.Finset.Card
import Mathlib.Data.List.Nodup

/-!
# Which copies are counted

A message to one party is one copy, and a broadcast is a copy for each registered
name but that of its sender.  A copy is delivered, dropped or held, and what is
held for a name is delivered once the name is registered.  No name is registered
twice at a time, so the three counts together are the number of copies of all
messages that were routed.  There is one exception: what is held for a name and
finds a mailbox that nobody attends any more is in no count.
-/

namespace Disclosure.Router

variable {router : Router} {name : String} {message : Message}

/-! ## Registered names -/

/-- The names under which a mailbox is registered, in the order of joining. -/
def registered (router : Router) : List String :=
  (router.mailboxes.filter Mailbox.registered).map Mailbox.name

@[simp]
theorem mem_registered :
    name ∈ router.registered ↔ router.isRegistered name = true := by
  simp only [registered, isRegistered_eq_any, boxes, List.mem_map,
    List.mem_filter, List.any_eq_true, beq_iff_eq]
  constructor
  · rintro ⟨mailbox, ⟨among, delivers⟩, named⟩
    exact ⟨mailbox, ⟨among, named⟩, delivers⟩
  · rintro ⟨mailbox, ⟨among, named⟩, delivers⟩
    exact ⟨mailbox, ⟨among, delivers⟩, named⟩

/-- What leaves names and registrations alone leaves the registered names. -/
theorem registered_map {change : Mailbox → Mailbox}
    (keeps : ∀ mailbox, (change mailbox).name = mailbox.name ∧
      (change mailbox).registered = mailbox.registered) :
    ((router.mailboxes.map change).filter Mailbox.registered).map
        Mailbox.name =
      router.registered := by
  rw [List.filter_map, List.map_map, registered]
  have sameTest : Mailbox.registered ∘ change = Mailbox.registered :=
    funext fun mailbox => (keeps mailbox).2
  have sameName : Mailbox.name ∘ change = Mailbox.name :=
    funext fun mailbox => (keeps mailbox).1
  rw [sameTest, sameName]

/-- A name that is accepted is new. -/
theorem registered_register (router : Router) (name : String)
    (attended : Bool) :
    (router.register name attended).2.registered =
        router.registered ++
          (if (router.register name attended).1 then [name] else []) ∧
      ((router.register name attended).1 = true →
        name ∉ router.registered) := by
  rw [mem_registered, register]
  split
  next refused => simp
  next accepted =>
    have absent : ¬ router.isRegistered name = true := fun present =>
      accepted (by rw [present, Bool.true_or])
    exact ⟨by simp [registered], fun _ => absent⟩

theorem registered_retire (router : Router) (name : String) :
    (router.retire name).registered =
      router.registered.filter fun other => other ≠ name := by
  simp only [registered, retire, List.filter_map, List.map_map,
    List.filter_filter]
  have sameName : Mailbox.name ∘ (fun mailbox : Mailbox =>
      if mailbox.name = name then { mailbox with registered := false }
      else mailbox) = Mailbox.name := by
    funext mailbox
    rw [Function.comp_apply]
    split <;> rfl
  rw [sameName]
  congr 1
  apply List.filter_congr
  intro mailbox _
  by_cases leaves : mailbox.name = name
  · simp [leaves]
  · simp [leaves]

@[simp]
theorem registered_deliver (router : Router) (message : Message)
    (selects : Mailbox → Bool) :
    (router.deliver message selects).registered = router.registered := by
  refine registered_map fun mailbox => ?_
  split <;> exact ⟨rfl, rfl⟩

@[simp]
theorem registered_route (router : Router) (message : Message) :
    (router.route message).registered = router.registered := by
  rw [route]
  split
  · exact registered_deliver ..
  · split
    · rfl
    · split
      · exact registered_deliver ..
      · rfl

@[simp]
theorem registered_hangUp (router : Router) (name : String) :
    (router.hangUp name).2.registered = router.registered := by
  refine registered_map fun mailbox => ?_
  split <;> exact ⟨rfl, rfl⟩

/-! ## What is counted -/

/-- How many copies have met their fate or wait for a name. -/
def counted (router : Router) : Nat :=
  router.delivered + router.dropped + router.undelivered

/-- How many copies of a message there are: one for its recipient, or one for
each registered name but that of its sender. -/
def copies (router : Router) (message : Message) : Nat :=
  match message.recipient with
  | some _ => 1
  | none => (router.registered.toFinset.erase message.sender).card

/-- To deliver a message counts a copy for each mailbox that is selected. -/
theorem deliver_counted (router : Router) (message : Message)
    (selects : String → Bool) :
    (router.deliver message fun mailbox => selects mailbox.name).counted =
      router.counted + router.registered.countP selects := by
  have fates := List.length_eq_countP_add_countP Mailbox.attended
    (l := router.mailboxes.filter fun mailbox =>
      mailbox.registered && selects mailbox.name)
  have selected : (router.mailboxes.filter fun mailbox =>
      mailbox.registered && selects mailbox.name).length =
        router.registered.countP selects := by
    rw [registered, List.countP_map, List.countP_filter,
      List.countP_eq_length_filter]
    simp only [Function.comp_apply, Bool.and_comm]
  rw [selected] at fates
  simp only [deliver, counted, undelivered]
  simp only [Bool.not_eq_true, Bool.decide_eq_false] at fates
  omega

/-- Without repetitions, the names but one are counted one by one. -/
theorem card_erase (distinct : router.registered.Nodup) (sender : String) :
    (router.registered.toFinset.erase sender).card =
      router.registered.countP fun other => other != sender := by
  rw [← Finset.filter_ne', List.countP_eq_length_filter,
    ← List.toFinset_card_of_nodup (distinct.filter _), List.toFinset_filter]
  simp only [bne_iff_ne]

/-- Routing counts every copy of the message. -/
theorem route_counted (distinct : router.registered.Nodup)
    (message : Message) :
    (router.route message).counted =
      router.counted + router.copies message := by
  cases addressee : message.recipient with
  | none =>
    simp only [route, copies, addressee, card_erase distinct]
    exact router.deliver_counted message fun other => other != message.sender
  | some recipient =>
    simp only [route, copies, addressee]
    split
    · simp only [counted, undelivered]
      omega
    · split
      next present =>
        have once : router.registered.countP (· == recipient) = 1 :=
          List.count_eq_one_of_mem distinct (mem_registered.mpr present)
        rw [← once]
        exact router.deliver_counted message (· == recipient)
      next => simp [counted, undelivered, Nat.add_assoc]

/-! ## One occurrence -/

/-- What can happen to a router: somebody uses it, or a mailbox that is
registered is left unattended. -/
inductive Occurrence where
  | operation (operation : Operation)
  | hangUp (name : String)

/-- The router after an occurrence. -/
def undergo (router : Router) : Occurrence → Router
  | .operation operation => router.perform operation
  | .hangUp name => (router.hangUp name).2

/-- A new router after several occurrences, one after the other. -/
def undergoAll (occurrences : List Occurrence) : Router :=
  occurrences.foldl undergo .empty

/-- How many copies there are to deliver on an occurrence: those of the message
that is routed, with a copy for whoever is registered at that time. -/
def entrusted (router : Router) : Occurrence → Nat
  | .operation (.route message) => router.copies message
  | .operation (.register ..) => 0
  | .operation (.retire _) => 0
  | .hangUp _ => 0

/-- How many copies are refused on an occurrence: those that were held for a
name whose mailbox is left already when it is registered. -/
def refused (router : Router) : Occurrence → Nat
  | .operation (.register name attended) =>
    if (router.register name attended).1 && !attended then
      (router.held.filter (isFor name)).length
    else 0
  | .operation (.retire _) => 0
  | .operation (.route _) => 0
  | .hangUp _ => 0

/-- No name is registered twice at a time. -/
theorem nodup_undergo (distinct : router.registered.Nodup)
    (occurrence : Occurrence) :
    (router.undergo occurrence).registered.Nodup := by
  cases occurrence with
  | hangUp name => simpa [undergo] using distinct
  | operation operation =>
    cases operation with
    | register name attended =>
      rcases router.registered_register name attended with ⟨names, fresh⟩
      simp only [undergo, perform, names]
      split
      next accepted =>
        refine List.nodup_append.mpr
          ⟨distinct, List.nodup_singleton name, ?_⟩
        rintro other among new listed rfl
        rw [List.mem_singleton.mp listed] at among
        exact fresh accepted among
      next => simpa using distinct
    | retire name =>
      simp only [undergo, perform, registered_retire]
      exact distinct.filter _
    | route message => simpa [undergo, perform] using distinct

/-- So it is whatever happens to a new router. -/
theorem nodup_undergoAll (occurrences : List Occurrence) :
    (undergoAll occurrences).registered.Nodup := by
  refine List.foldlRecOn (motive := fun router => router.registered.Nodup)
    occurrences undergo ?_ ?_
  · exact List.nodup_nil
  · exact fun _ distinct occurrence _ => nodup_undergo distinct occurrence

/-- What is held for a name is delivered once a mailbox is registered that
somebody attends.  Into a mailbox that nobody attends any more nothing is put,
and these copies are in no count. -/
theorem register_counted (router : Router) (name : String)
    (attended : Bool) :
    (router.register name attended).2.counted +
        router.refused (.operation (.register name attended)) =
      router.counted := by
  have parts := List.length_eq_length_filter_add (l := router.held)
    (isFor name)
  rw [refused, register]
  split
  · rfl
  · cases attended <;> simp [counted, undelivered] <;> omega

/-- On any occurrence the counts grow by the copies that there are to deliver,
but for those that are refused. -/
theorem undergo_counted (distinct : router.registered.Nodup)
    (occurrence : Occurrence) :
    (router.undergo occurrence).counted + router.refused occurrence =
      router.counted + router.entrusted occurrence := by
  cases occurrence with
  | hangUp name => rfl
  | operation operation =>
    cases operation with
    | register name attended => exact router.register_counted name attended
    | retire name => rfl
    | route message => exact route_counted distinct message

/-! ## Any course of events -/

/-- The total of what there is to count on each of several occurrences. -/
def total (count : Router → Occurrence → Nat) (router : Router) :
    List Occurrence → Nat
  | [] => 0
  | occurrence :: later =>
    count router occurrence + total count (router.undergo occurrence) later

/-- There is nothing in total if there is nothing on any occurrence. -/
theorem total_eq_zero_iff (count : Router → Occurrence → Nat)
    (router : Router) (occurrences : List Occurrence) :
    total count router occurrences = 0 ↔
      ∀ before occurrence later,
        occurrences = before ++ occurrence :: later →
          count (before.foldl undergo router) occurrence = 0 := by
  induction occurrences generalizing router with
  | nil => simp [total]
  | cons first later continues =>
    rw [total, Nat.add_eq_zero_iff, continues]
    constructor
    · rintro ⟨nothing, nothingLater⟩ before occurrence rest split
      cases before with
      | nil =>
        obtain ⟨rfl, rfl⟩ := List.cons_eq_cons.mp split
        exact nothing
      | cons other before =>
        obtain ⟨rfl, rfl⟩ := List.cons_eq_cons.mp split
        exact nothingLater before occurrence rest rfl
    · intro nothing
      refine ⟨nothing [] first later rfl, ?_⟩
      rintro before occurrence rest rfl
      exact nothing (first :: before) occurrence rest rfl

theorem foldl_undergo_counted (distinct : router.registered.Nodup)
    (occurrences : List Occurrence) :
    (occurrences.foldl undergo router).counted +
        total refused router occurrences =
      router.counted + total entrusted router occurrences := by
  induction occurrences generalizing router with
  | nil => rfl
  | cons occurrence later continues =>
    have rest := continues (nodup_undergo distinct occurrence)
    have first := undergo_counted distinct occurrence
    rw [List.foldl_cons, total, total]
    omega

/-- Nothing is refused exactly if nothing is held for any name that is
registered with a mailbox that nobody attends any more. -/
theorem total_refused_eq_zero_iff (occurrences : List Occurrence) :
    total refused empty occurrences = 0 ↔
      ∀ before name later,
        occurrences = before ++ .operation (.register name false) :: later →
        ((undergoAll before).register name false).1 = true →
        (undergoAll before).held.filter (isFor name) = [] := by
  rw [total_eq_zero_iff]
  constructor
  · intro nothing before name later split accepted
    have none := nothing before _ later split
    rw [refused, show (before.foldl undergo empty).register name false =
      (undergoAll before).register name false from rfl, accepted] at none
    exact List.length_eq_zero_iff.mp none
  · intro nothing before occurrence later split
    cases occurrence with
    | hangUp name => rfl
    | operation operation =>
      cases operation with
      | retire name => rfl
      | route message => rfl
      | register name attended =>
        cases attended with
        | true => simp [refused]
        | false =>
          rw [refused]
          split
          next accepted =>
            rw [Bool.not_false, Bool.and_true] at accepted
            exact List.length_eq_zero_iff.mpr
              (nothing before name later split accepted)
          next => rfl

/--
However names are registered and retired, messages routed and mailboxes left in
between, the deliveries, drops and messages held are together as many as the
copies of all routed messages, but for those that are refused: one of a direct
message, and of a broadcast one for each name but the sender that is registered
at the time.  So every copy is counted exactly if nothing is held for a name
that is registered with a mailbox that nobody attends any more.
-/
theorem every_copy_is_counted_iff_none_refused
    (occurrences : List Occurrence) :
    (undergoAll occurrences).delivered + (undergoAll occurrences).dropped +
          (undergoAll occurrences).undelivered +
        total refused empty occurrences =
      total entrusted empty occurrences ∧
    ((undergoAll occurrences).delivered + (undergoAll occurrences).dropped +
          (undergoAll occurrences).undelivered =
        total entrusted empty occurrences ↔
      ∀ before name later,
        occurrences = before ++ .operation (.register name false) :: later →
        ((undergoAll before).register name false).1 = true →
        (undergoAll before).held.filter (isFor name) = []) := by
  have distinct : empty.registered.Nodup := List.nodup_nil
  have whole : (undergoAll occurrences).counted +
      total refused empty occurrences =
        empty.counted + total entrusted empty occurrences :=
    foldl_undergo_counted distinct occurrences
  rw [show empty.counted = 0 from rfl, Nat.zero_add, counted] at whole
  refine ⟨whole, ?_⟩
  rw [← total_refused_eq_zero_iff]
  omega

/-- A report waits for somebody who has left by the time of joining.  It is
neither delivered nor dropped nor held, whereas the same report is dropped when
it is routed after that. -/
theorem refused_report_is_not_counted :
    let report : Message :=
      ⟨.reportSubmission, "finder", some "late", .null⟩
    let router := undergoAll
      [.operation (.route report), .operation (.register "late" false)]
    total entrusted empty
        [.operation (.route report), .operation (.register "late" false)] =
      1 ∧
    router.isRegistered "late" = true ∧
    router.delivered + router.dropped + router.undelivered = 0 ∧
    (router.route report).dropped = 1 := by
  refine ⟨rfl, ?_, ?_, ?_⟩ <;> decide +kernel

end Disclosure.Router
