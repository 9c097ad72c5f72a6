import Disclosure.Proofs.Actor.Log
import Disclosure.Proofs.Actor.Resemblance
import Disclosure.Proofs.Contacts.Seclusion
import Disclosure.Simulation.Concurrent

/-!
# A case of one

A participant that cannot reach out to others stays alone: it brings nobody into
the case, and what it broadcasts reaches nobody.  So there is no mail at all, and
a case in lock step and a case side by side both come down to the same turns of
one actor.  Only an identifier may have another text, as it comes from outside.
-/

namespace Disclosure

open ActorState

namespace Actor

/-! ## The turns of one actor -/

/-- One tick, after which the record of answers is cleared. -/
def takeTurn (actor : Actor) : Actor :=
  actor.tick.2.modify fun state =>
    { state with arbiter := state.arbiter.clearRecord }

/-- Up to so many turns, until the report is closed; counts them from `taken`. -/
def turnsFrom (taken : Nat) : Nat → Actor → Nat × Actor
  | 0, actor => (taken, actor)
  | turns + 1, actor =>
    if actor.isClosed then (taken, actor)
    else turnsFrom (taken + 1) turns actor.takeTurn

variable {actor : Actor} {name : String}

theorem turnsFrom_of_closed (taken turns : Nat)
    (closed : actor.isClosed = true) :
    actor.turnsFrom taken turns = (taken, actor) := by
  cases turns with
  | zero => rfl
  | succ turns => rw [turnsFrom, if_pos closed]

/-- The clock of an actor counts its turns, and there are not too many. -/
theorem Live.turnsFrom_counts (live : actor.Live) (taken turns : Nat)
    (counts : actor.state.tick = .ofNat taken) :
    (actor.turnsFrom taken turns).2.state.tick =
        .ofNat (actor.turnsFrom taken turns).1 ∧
      (actor.turnsFrom taken turns).1 ≤ taken + turns := by
  induction turns generalizing actor taken with
  | zero => exact ⟨counts, Nat.le_refl _⟩
  | succ turns ih =>
    rw [turnsFrom]
    split
    · exact ⟨counts, Nat.le_add_right _ _⟩
    · obtain ⟨stillLive, logs, _⟩ := live.tick_logsOn
      have stillLive : actor.takeTurn.Live := stillLive
      have next : actor.takeTurn.state.tick = .ofNat (taken + 1) := by
        rw [UInt64.ofNat_add, ← counts]
        exact logs.tick
      rcases ih stillLive (taken + 1) next with ⟨clock, within⟩
      exact ⟨clock, by omega⟩

/-- Actors that resemble each other take the same number of turns, and go on to
resemble each other. -/
theorem Live.turnsFrom_resembles {shared : Prop} {twin : Actor}
    (live : actor.Live) (liveTwin : twin.Live)
    (resembles : actor.state.Resembles shared twin.state)
    (taken turns : Nat) :
    (twin.turnsFrom taken turns).1 = (actor.turnsFrom taken turns).1 ∧
      (actor.turnsFrom taken turns).2.state.Resembles shared
        (twin.turnsFrom taken turns).2.state := by
  induction turns generalizing actor twin taken with
  | zero => exact ⟨rfl, resembles⟩
  | succ turns ih =>
    have sameReport : twin.state.report = actor.state.report :=
      resembles.reads fun _ _ _ _ _ => rfl
    have closes : twin.isClosed = actor.isClosed := by
      rw [isClosed, isClosed, sameReport]
    rw [turnsFrom, turnsFrom, closes]
    split
    · exact ⟨rfl, resembles⟩
    · have liveThen : actor.takeTurn.Live := live.tick.1
      have liveTwinThen : twin.takeTurn.Live := liveTwin.tick.1
      let clear (state : ActorState) : ActorState :=
        { state with arbiter := state.arbiter.clearRecord }
      have resemblesThen : (clear actor.tick.2.state).Resembles shared
          (clear twin.tick.2.state) :=
        (live.tick_resembles liveTwin resembles).2.change
          fun _ _ _ _ _ => rfl
      exact ih liveThen liveTwinThen resemblesThen (taken + 1)

/-- An actor at work that keeps to itself. -/
abbrev Alone (name : String) (actor : Actor) : Prop :=
  actor.Has (Secluded name)

namespace Alone

theorem takeTurn (alone : actor.Alone name) : actor.takeTurn.Alone name :=
  have ticked := alone.tick (secluded_kept name)
  ⟨ticked.1, (secluded_kept name).clearRecord _ ticked.2⟩

/-- In its turn it introduces nobody. -/
theorem introduced (alone : actor.Alone name) (known : Nat) :
    actor.takeTurn.state.introduced.toList.drop known = [] := by
  rw [alone.takeTurn.2.introduced]
  exact List.drop_nil

/-- What it sends in its turn, it sends to everybody else. -/
theorem sent (alone : actor.Alone name) (known : Nat) :
    ∀ message ∈ actor.takeTurn.state.sent.toList.drop known,
      message.recipient = none ∧ message.sender = name :=
  fun message among =>
    alone.takeTurn.2.broadcasts message (List.mem_of_mem_drop among)

end Alone

end Actor

variable {actor : Actor} {name : String}

namespace LockStep

/-! ## In lock step -/

/-- A case of one member, with no mail on the way or delivered. -/
def ofOne (seed : Option UInt64) (entropy : Nat → Chance) (name : String)
    (actor : Actor) : LockStep :=
  { empty seed entropy with members := [⟨name, actor⟩] }

section Rounds

variable (seed : Option UInt64) (entropy : Nat → Chance)

/-- What the one member sends to everybody else reaches nobody. -/
theorem route_ofOne {messages : List Message}
    (named : actor.name = name)
    (own : ∀ message ∈ messages,
      message.recipient = none ∧ message.sender = name) :
    messages.foldl route (ofOne seed entropy name actor) =
      ofOne seed entropy name actor := by
  refine List.foldlRecOn (motive := (· = ofOne seed entropy name actor))
    _ _ rfl ?_
  rintro _ rfl message among
  simp [route, ofOne, routeToAll, own message among, named, empty]

/-- A round is a turn of the one member. -/
theorem round_ofOne (alone : actor.Alone name)
    (opened : ¬ actor.isClosed = true) :
    (ofOne seed entropy name actor).round =
      .ok (ofOne seed entropy name actor.takeTurn) := by
  have ticked : tickAll [⟨name, actor⟩] =
      ⟨[⟨name, actor.takeTurn⟩], [],
        actor.takeTurn.state.sent.toList.drop actor.state.sent.size⟩ := by
    have introduced := alone.introduced actor.state.introduced.size
    simp only [tickAll, tickMember, if_neg opened, List.map_cons,
      List.map_nil, List.flatMap_singleton]
    exact congrArg (fun newcomers => Ticked.mk _ newcomers _) introduced
  have routed := route_ofOne seed entropy alone.takeTurn.2.named
    (alone.sent actor.state.sent.size)
  simp only [round, ofOne, ticked, enroll]
  exact congrArg Except.ok routed

/-- All rounds together are the turns of the one member. -/
theorem runFrom_ofOne (taken rounds : Nat) (alone : actor.Alone name) :
    runFrom taken rounds (ofOne seed entropy name actor) =
      .ok ((actor.turnsFrom taken rounds).1,
        ofOne seed entropy name (actor.turnsFrom taken rounds).2) := by
  induction rounds generalizing actor taken with
  | zero => rfl
  | succ rounds ih =>
    have closes : (ofOne seed entropy name actor).allClosed =
        actor.isClosed :=
      Bool.and_true _
    rw [runFrom, closes, Actor.turnsFrom]
    split
    · rfl
    next opened =>
      rw [round_ofOne seed entropy alone opened]
      exact ih (taken + 1) alone.takeTurn

end Rounds

theorem run_ofOne {config : Config} {entropy : Nat → Chance}
    {enrollment : Enrollment}
    (participants : config.participants = [enrollment])
    (made : Actor.new enrollment.name enrollment.roles
      (.ofNumber config.seed entropy 0) = .ok actor)
    (alone : actor.Alone enrollment.name) :
    run config entropy =
      .ok ((ofOne config.seed entropy enrollment.name
          (actor.turnsFrom 0 config.maxTicks.toNat).2).report
        (actor.turnsFrom 0 config.maxTicks.toNat).1) := by
  have founded : ofEnrollments config.seed entropy config.participants =
      .ok (ofOne config.seed entropy enrollment.name actor) := by
    rw [participants]
    simp only [ofEnrollments, join, List.foldlM_cons, empty, List.length_nil,
      made]
    rfl
  have went := runFrom_ofOne config.seed entropy 0 config.maxTicks.toNat alone
  rw [run, founded]
  exact congrArg (Except.bind · fun ended => .ok (ended.2.report ended.1)) went

end LockStep

namespace Router

/-- The router of somebody who has not got any mail. -/
def ofOne (name : String) : Router := ⟨[⟨name, [], true, true⟩], [], [], 0, 0⟩

theorem drain_ofOne (name : String) :
    (ofOne name).drain name = ([], ofOne name) := by
  simp [drain, ofOne]

/-- What the one actor sends to everybody else reaches nobody. -/
theorem route_ofOne {messages : List Message}
    (own : ∀ message ∈ messages,
      message.recipient = none ∧ message.sender = name) :
    messages.foldl route (ofOne name) = ofOne name := by
  refine List.foldlRecOn (motive := (· = ofOne name)) _ _ rfl ?_
  rintro _ rfl message among
  simp [route, ofOne, deliver, post, own message among]

end Router

namespace Concurrent

/-! ## Side by side -/

/-- One actor at work and nobody else. -/
def ofOne (seed : Option UInt64) (entropy : Nat → Chance) (maxTicks : Nat)
    (task : Task) : Concurrent :=
  ⟨.ofOne task.name, [task], [], seed, entropy, 1, maxTicks⟩

/-- The one actor is done. -/
def afterOne (seed : Option UInt64) (entropy : Nat → Chance) (maxTicks : Nat)
    (name : String) (actor : Actor) : Concurrent :=
  ⟨(Router.ofOne name).retire actor.name, [], [actor.summary], seed, entropy,
    1, maxTicks⟩

/-- A turn with ticks left introduces nobody and leaves the router as it is. -/
theorem turn_ofOne (alone : actor.Alone name) (ticksLeft : Nat) :
    turn (.ofOne name) ⟨name, actor, ticksLeft + 1⟩ =
      if actor.takeTurn.isClosed then finish (.ofOne name) actor.takeTurn []
      else ⟨.ofOne name, some ⟨name, actor.takeTurn, ticksLeft⟩, none, []⟩ := by
  have routed := Router.route_ofOne (alone.sent actor.state.sent.size)
  have introduced := alone.introduced actor.state.introduced.size
  simp only [Actor.takeTurn] at routed introduced
  simp only [turn, Router.drain_ofOne, List.foldl_nil]
  rw [routed, introduced]
  rfl

section Turns

variable {seed : Option UInt64} {entropy : Nat → Chance}
  {maxTicks bound : Nat}

/-- Only the summary of the one actor has anything to report. -/
theorem report_afterOne :
    (afterOne seed entropy maxTicks name actor).report =
      ⟨.concurrent, actor.state.tick.toNat, 0, 0, 0, [actor.summary]⟩ := by
  rw [report, afterOne, List.mergeSort_singleton, List.map_singleton,
    List.foldl_cons, Nat.zero_max]
  rfl

/-- With the last turn of the one actor everybody is done. -/
theorem runTasks_of_finish {task : Task}
    (finishes : turn (.ofOne task.name) task =
      finish (.ofOne task.name) actor []) :
    runTasks (bound + 1) (ofOne seed entropy maxTicks task) =
      .ok (afterOne seed entropy maxTicks task.name actor) := by
  have ended : runTasks (bound + 1) (ofOne seed entropy maxTicks task) =
      runTasks bound (afterOne seed entropy maxTicks task.name actor) := by
    simp only [runTasks, ofOne, turns, finishes]
    rfl
  rw [ended]
  cases bound with
  | zero => rfl
  | succ bound => rfl

/-- With any other turn it only goes on. -/
theorem runTasks_of_goesOn {task next : Task}
    (goesOn : turn (.ofOne task.name) task =
      ⟨.ofOne next.name, some next, none, []⟩) :
    runTasks (bound + 1) (ofOne seed entropy maxTicks task) =
      runTasks bound (ofOne seed entropy maxTicks next) := by
  simp only [runTasks, ofOne, turns, goesOn]
  rfl

end Turns

/-- All turns together are the turns of the one actor. -/
theorem runTasks_ofOne (seed : Option UInt64) (entropy : Nat → Chance)
    (maxTicks taken : Nat) {bound ticksLeft : Nat}
    (alone : actor.Alone name)
    (opened : ¬ actor.isClosed = true)
    (enough : ticksLeft ≤ bound) :
    runTasks (bound + 1)
        (ofOne seed entropy maxTicks ⟨name, actor, ticksLeft⟩) =
      .ok (afterOne seed entropy maxTicks name
        (actor.turnsFrom taken ticksLeft).2) := by
  induction ticksLeft generalizing actor taken bound with
  | zero => exact runTasks_of_finish rfl
  | succ ticksLeft ih =>
    have turned := turn_ofOne alone ticksLeft
    rw [Actor.turnsFrom, if_neg opened]
    split at turned
    next closed =>
      rw [Actor.turnsFrom_of_closed _ _ closed]
      exact runTasks_of_finish turned
    next goesOn =>
      obtain ⟨bound, rfl⟩ := Nat.exists_eq_succ_of_ne_zero
        (Nat.ne_zero_of_lt enough)
      have wentOn : runTasks (bound + 2)
            (ofOne seed entropy maxTicks ⟨name, actor, ticksLeft + 1⟩) =
          runTasks (bound + 1)
            (ofOne seed entropy maxTicks ⟨name, actor.takeTurn, ticksLeft⟩) :=
        runTasks_of_goesOn turned
      exact wentOn.trans (ih (taken + 1) alone.takeTurn goesOn
        (Nat.le_of_succ_le_succ enough))

theorem run_ofOne {config : Config} {entropy : Nat → Chance}
    {enrollment : Enrollment}
    (participants : config.participants = [enrollment])
    (made : Actor.new enrollment.name enrollment.roles
      (.ofNumber config.seed entropy 0) = .ok actor)
    (alone : actor.Alone enrollment.name)
    (opened : ¬ actor.isClosed = true) :
    run config entropy =
      .ok (afterOne config.seed entropy config.maxTicks.toNat enrollment.name
        (actor.turnsFrom 0 config.maxTicks.toNat).2).report := by
  have started : (empty config.seed entropy config.maxTicks.toNat).start
      enrollment.name enrollment.roles id =
      .ok (ofOne config.seed entropy config.maxTicks.toNat
        ⟨enrollment.name, actor, config.maxTicks.toNat⟩) := by
    simp only [start, empty, made]
    rfl
  have enough : config.maxTicks.toNat <
      turnBound [enrollment].length config.maxTicks.toNat :=
    Nat.lt_of_lt_of_le (Nat.lt_add_of_pos_right Nat.two_pos)
      (Nat.le_mul_of_pos_left _ (Nat.succ_pos _))
  obtain ⟨bound, same⟩ := Nat.exists_eq_succ_of_ne_zero
    (Nat.ne_zero_of_lt enough)
  have went := runTasks_ofOne config.seed entropy config.maxTicks.toNat 0
    alone opened (Nat.le_of_lt_succ (same ▸ enough))
  rw [run, participants, List.foldlM_cons, started, same]
  exact congrArg (Except.bind · fun ended => .ok ended.report) went

end Concurrent

/-! ## Alike but for the text of an identifier -/

/-- The summary tells that there is an identifier, but not which. -/
def Summary.masked (summary : Summary) : Summary :=
  { summary with
    vulnerabilityId := summary.vulnerabilityId.map fun _ => "" }

theorem Summary.map_mask_eq {identifier other : Option String}
    (assigned : other.isSome = identifier.isSome) :
    (other.map fun _ => "") = identifier.map fun _ => "" := by
  cases identifier with
  | none =>
    cases other with
    | none => rfl
    | some text => cases assigned
  | some text =>
    obtain ⟨otherText, rfl⟩ := Option.isSome_iff_exists.mp assigned
    rfl

/-- No summary of the report tells an identifier. -/
def Report.masked (report : Report) : Report :=
  { report with actors := report.actors.map Summary.masked }

/-- Actors that resemble each other have the same summary, but for the text of
an identifier from another source. -/
theorem Actor.summary_resembles {shared : Prop} {actor twin : Actor}
    (resembles : actor.state.Resembles shared twin.state) :
    twin.summary.masked = actor.summary.masked ∧
      (shared → twin.summary = actor.summary) := by
  generalize sameState : twin.state = state at resembles
  cases resembles with
  | @exchanged _ _ _ vulnerabilityId _ _ assigned sameSource =>
    simp only [summary, isClosed, Summary.masked, sameState]
    exact ⟨by rw [Summary.map_mask_eq assigned],
      fun same => by rw [(sameSource same).2]⟩

/-- A case of one participant that neither reports nor coordinates ends alike in
lock step and side by side, seeded or with the same stream, but for the text of
an identifier, which is the same as well if it comes from the same source. -/
theorem one_participant_runs_alike (config : Config)
    (here there : Nat → Chance)
    {enrollment : Enrollment}
    (alone : config.participants = [enrollment])
    (noReporter : enrollment.roles.reporter = false)
    (noCoordinator : enrollment.roles.coordinator = false)
    (sameStream : config.seed = none →
      (there 0).stream = (here 0).stream) :
    ∃ report other, LockStep.run config here = .ok report ∧
      Concurrent.run config there = .ok other ∧
      other.masked = { report.masked with mode := .concurrent } ∧
      ((there 0).identifiers = (here 0).identifiers →
        other = { report with mode := .concurrent }) := by
  obtain ⟨actor, made, live, begins⟩ := Actor.exists_new enrollment.name
    enrollment.roles (.ofNumber config.seed here 0)
  obtain ⟨twin, madeToo, liveTwin, beginsToo⟩ := Actor.exists_new
    enrollment.name enrollment.roles (.ofNumber config.seed there 0)
  have secluded : actor.Alone enrollment.name :=
    ⟨live, begins ▸ .begins _ noReporter noCoordinator⟩
  have secludedToo : twin.Alone enrollment.name :=
    ⟨liveTwin, beginsToo ▸ .begins _ noReporter noCoordinator⟩
  have opened : ¬ twin.isClosed = true := by
    rw [Actor.isClosed, beginsToo]
    exact Bool.false_ne_true
  have streams : (Chance.ofNumber config.seed there 0).stream =
      (Chance.ofNumber config.seed here 0).stream := by
    cases seed : config.seed with
    | none => exact sameStream seed
    | some => rfl
  have resembles : actor.state.Resembles
      ((there 0).identifiers = (here 0).identifiers) twin.state := by
    rw [begins, beginsToo]
    exact .beginning _ _ streams
  obtain ⟨sameTurns, resemblesLast⟩ :=
    live.turnsFrom_resembles liveTwin resembles 0 config.maxTicks.toNat
  obtain ⟨clock, within⟩ := liveTwin.turnsFrom_counts 0 config.maxTicks.toNat
    (by rw [beginsToo]; rfl)
  -- The clock can count as many turns as there may be.
  have rounds :
      (twin.turnsFrom 0 config.maxTicks.toNat).2.state.tick.toNat =
        (actor.turnsFrom 0 config.maxTicks.toNat).1 := by
    rw [Nat.zero_add] at within
    rw [clock, ← sameTurns]
    exact UInt64.toNat_ofNat_of_lt
      (Nat.lt_of_le_of_lt within config.maxTicks.toNat_lt)
  have summaries := Actor.summary_resembles resemblesLast
  refine ⟨_, _, LockStep.run_ofOne alone made secluded,
    Concurrent.run_ofOne alone madeToo secludedToo opened, ?_, ?_⟩
  · rw [Concurrent.report_afterOne, rounds]
    exact congrArg (fun summary =>
      (⟨.concurrent, _, 0, 0, 0, [summary]⟩ : Report)) summaries.1
  · intro same
    rw [Concurrent.report_afterOne, rounds]
    exact congrArg (fun summary =>
      (⟨.concurrent, _, 0, 0, 0, [summary]⟩ : Report)) (summaries.2 same)

/-- A seeded vendor and nobody else. -/
def onlyVendor : Config :=
  { Config.standard with
    seed := some 12, participants := [⟨"vendor", .ofList [.vendor]⟩] }

/-- The vendor closes its report in the second turn, wherever identifiers come
from. -/
theorem one_vendor_runs_alike :
    ∃ report other, LockStep.run onlyVendor default = .ok report ∧
      Concurrent.run onlyVendor (fun number =>
          ⟨default, .ofSeed number.toUInt64⟩) = .ok other ∧
      other.masked = { report.masked with mode := .concurrent } ∧
      report.rounds = 2 ∧ report.allClosed = true := by
  obtain ⟨report, other, went, wentToo, alike, _⟩ :=
    one_participant_runs_alike onlyVendor default
      (fun number => ⟨default, .ofSeed number.toUInt64⟩) rfl rfl rfl
      fun unseeded => by cases unseeded
  have ends : (LockStep.run onlyVendor default).toOption.map
      (fun report => (report.rounds, report.allClosed)) = some (2, true) := by
    decide +kernel
  rw [went] at ends
  obtain ⟨rounds, closed⟩ := Prod.mk.inj (Option.some.inj ends)
  exact ⟨report, other, went, wentToo, alike, rounds, closed⟩

end Disclosure
