import Disclosure.Proofs.Tree.Minutes

/-!
# The laps of loops

In one tick of its own a loop may tick its child any number of times.  Each of these
ticks is a lap.  The rule of a decorator says which answers of the child it goes
round for and what it answers in the end.

What a node does in a tick is a row of moves of its children, and the minutes have an
account of each of them.  So it can be read off the minutes that each decorator obeys
its rule, and that the count of a loop grows by its laps.
-/

namespace Disclosure

open TickError

variable {ι σ κ μ β : Type}

/-! ## Rules of the laps -/

/-- Up to so many answers that are all `through`, or any number less and then another
one, which is the answer to them all. -/
def Status.UpTo (times : Nat) (through : Status) (answers : List Status)
    (answer : Status) : Prop :=
  answers = List.replicate times through ∧ answer = through ∨
    ∃ earlier < times, answers = List.replicate earlier through ++ [answer] ∧
      answer ≠ through

/-- Successes, then a failure or a child that is running; the failure is what was
waited for. -/
def Status.UntilFailure (answers : List Status) (answer : Status) : Prop :=
  ∃ earlier last, answers = List.replicate earlier .success ++ [last] ∧
    (last = .failure ∧ answer = .success ∨ last = .running ∧ answer = .running)

/-- What a decorator may answer when these are the answers of its child, in the order
of the laps. -/
def Decorator.Rules (answers : List Status) (answer : Status) :
    Decorator → Prop
  | retry times _ => Status.UpTo times .failure answers answer
  | repeated times _ => Status.UpTo times .success answers answer
  | untilFailure _ => Status.UntilFailure answers answer
  | _ => answers.length = 1

/-- The count of a node of this kind after a tick with so many laps. -/
def Kind.counted (count laps : Nat) : Kind μ β → Nat
  | decorator transform =>
    if transform.isLoop then (if transform.resets then 0 else count) + laps
    else count
  | _ => count

/-- The rule for a node of this kind, if there is one. -/
def Kind.Rules (answers : List Status) (answer : Status) : Kind μ β → Prop
  | decorator transform => transform.Rules answers answer
  | _ => True

namespace Status

variable {times : Nat} {through answer : Status} {answers : List Status}

theorem UpTo.lap (rest : UpTo times through answers answer) :
    UpTo (times + 1) through (through :: answers) answer := by
  rcases rest with ⟨rfl, same⟩ | ⟨earlier, below, rfl, other⟩
  · exact .inl ⟨rfl, same⟩
  · exact .inr ⟨earlier + 1, Nat.succ_lt_succ below, rfl, other⟩

theorem UntilFailure.lap (rest : UntilFailure answers answer) :
    UntilFailure (.success :: answers) answer := by
  rcases rest with ⟨earlier, last, rfl, ends⟩
  exact ⟨earlier + 1, last, rfl, ends⟩

end Status

/-! ## Moves that are accounted for -/

/-- One move after the other, each with its account. -/
inductive Moves (move : σ → κ → σ → Prop) : σ → List κ → σ → Prop where
  | none {state : σ} : Moves move state [] state
  | next {before middle after : σ} {account : κ} {accounts : List κ}
      (first : move before account middle)
      (rest : Moves move middle accounts after) :
    Moves move before (account :: accounts) after

/-- One of several states moves. -/
def MovesOne (move : Nat → σ → κ → σ → Prop) (before : List σ) (account : κ)
    (after : List σ) : Prop :=
  ∃ place state next, before[place]? = some state ∧
    move place state account next ∧ after = before.set place next

namespace Moves

variable {move : σ → κ → σ → Prop} {before after : σ}
  {accounts : List κ}

/-- What is true of the account of each move is true of all accounts. -/
theorem forall_accounts {holds : κ → Prop}
    (moves : Moves move before accounts after)
    (each : ∀ state account next, move state account next → holds account) :
    ∀ account ∈ accounts, holds account := by
  induction moves with
  | none => simp
  | next first _ ih => exact List.forall_mem_cons.mpr ⟨each _ _ _ first, ih⟩

/-- The state is part of a larger one, which moves along. -/
theorem embed {τ : Type} {moveOn : τ → κ → τ → Prop} (place : σ → τ)
    (moves : Moves move before accounts after)
    (each : ∀ state account next, move state account next →
      moveOn (place state) account (place next)) :
    Moves moveOn (place before) accounts (place after) := by
  induction moves with
  | none => exact .none
  | next first _ ih => exact .next (each _ _ _ first) ih

end Moves

/-- The child of a loop moves, and the moves are counted. -/
structure Laps (move : σ → κ → σ → Prop) (before : σ × Nat) (accounts : List κ)
    (after : σ × Nat) : Prop where
  moves : Moves move before.1 accounts after.1
  counted : after.2 = before.2 + accounts.length

namespace Laps

variable {move : σ → κ → σ → Prop} {state next : σ} {count : Nat} {account : κ}

theorem once (moved : move state account next) :
    Laps move (state, count) [account] (next, count + 1) :=
  ⟨.next moved .none, rfl⟩

theorem later {accounts : List κ} {after : σ × Nat}
    (moved : move state account next)
    (rest : Laps move (next, count + 1) accounts after) :
    Laps move (state, count) (account :: accounts) after := by
  refine ⟨.next moved rest.moves, ?_⟩
  rw [rest.counted, List.length_cons, Nat.add_assoc, Nat.add_comm 1]

end Laps

/-- Accounts are added in a tick, and there is such a relation of them to the states
and the answer. -/
def Ticker.Files (holds : σ → List κ → Status → σ → Prop)
    (tick : Ticker σ (Minutes κ β)) : Prop :=
  ∀ state minutes step, tick state minutes = .ok step →
    ∃ added, step.board.accounts = minutes.accounts ++ added ∧
      holds state added step.status step.state

/-- It is one account, with the answer. -/
def FilesOne (move : σ → Account ι μ β → σ → Prop) (before : σ)
    (added : List (Account ι μ β)) (answer : Status) (after : σ) : Prop :=
  ∃ account, added = [account] ∧ account.status = answer ∧
    move before account after

namespace Ticker.Files

/-- Accounts are added after one that was added before. -/
theorem grown_on {accounts middle after added : List κ} {account : κ}
    (grown : middle = accounts ++ [account]) (grownOn : after = middle ++ added) :
    after = accounts ++ account :: added := by
  rw [grownOn, grown, List.append_assoc, List.singleton_append]

section Loops

variable {move : σ → Account ι μ β → σ → Prop}
  {tick : Ticker σ (Minutes (Account ι μ β) β)}

theorem mapStatus (files : tick.Files (FilesOne move))
    (change : Status → Status) :
    (tick.mapStatus change).Files fun before added _ after =>
      Moves move before.1 added after.1 ∧ added.length = 1 ∧
        after.2 = before.2 := by
  intro state minutes step ends
  rcases exists_of_bind ends with ⟨first, ticked, same⟩
  cases same
  rcases files _ _ _ ticked with ⟨_, grown, account, rfl, _, moved⟩
  exact ⟨[account], grown, .next moved .none, rfl, rfl⟩

/-- Each lap is counted. -/
theorem repeatWhile (files : tick.Files (FilesOne move)) (through : Status)
    (times : Nat) :
    (tick.repeatWhile through times).Files fun before added answer after =>
      Laps move before added after ∧
        Status.UpTo times through (added.map Account.status) answer := by
  induction times with
  | zero =>
    intro state minutes step ends
    cases ends
    exact ⟨[], (List.append_nil _).symm, ⟨.none, rfl⟩, .inl ⟨rfl, rfl⟩⟩
  | succ times ih =>
    rintro ⟨state, count⟩ minutes step ends
    rcases exists_of_bind ends with ⟨first, ticked, goes⟩
    rcases files _ _ _ ticked with ⟨_, grown, account, rfl, answered, moved⟩
    split at goes
    next goesOn =>
      rcases ih _ _ _ goes with ⟨added, grownOn, laps, rule⟩
      refine ⟨account :: added, grown_on grown grownOn, laps.later moved, ?_⟩
      rw [List.map_cons, answered, goesOn]
      exact rule.lap
    next other =>
      cases goes
      refine ⟨[account], grown, .once moved, .inr ⟨0, Nat.succ_pos _, ?_, other⟩⟩
      exact congrArg (fun answer => [answer]) answered

theorem untilFailure (files : tick.Files (FilesOne move)) (bound : Nat) :
    (tick.untilFailure bound).Files fun before added answer after =>
      Laps move before added after ∧
        Status.UntilFailure (added.map Account.status) answer := by
  induction bound with
  | zero =>
    intro state minutes step ends
    cases ends
  | succ bound ih =>
    rintro ⟨state, count⟩ minutes step ends
    rcases exists_of_bind ends with ⟨first, ticked, goes⟩
    rcases files _ _ _ ticked with ⟨_, grown, account, rfl, answered, moved⟩
    split at goes
    next goesOn =>
      rcases ih _ _ _ goes with ⟨added, grownOn, laps, rule⟩
      refine ⟨account :: added, grown_on grown grownOn, laps.later moved, ?_⟩
      rw [List.map_cons, answered, goesOn]
      exact rule.lap
    next failed =>
      cases goes
      exact ⟨[account], grown, .once moved,
        0, _, rfl, .inl ⟨answered.trans failed, rfl⟩⟩
    next running =>
      cases goes
      exact ⟨[account], grown, .once moved,
        0, _, rfl, .inr ⟨answered.trans running, rfl⟩⟩

theorem of_laps {loop : Ticker (σ × Nat) (Minutes (Account ι μ β) β)}
    {rule : List Status → Status → Prop}
    (files : loop.Files fun before added answer after =>
      Laps move before added after ∧ rule (added.map Account.status) answer) :
    loop.Files fun before added answer after =>
      Moves move before.1 added after.1 ∧
        rule (added.map Account.status) answer ∧
        after.2 = before.2 + added.length := by
  intro state minutes step ends
  rcases files _ _ _ ends with ⟨added, grown, ⟨moves, counted⟩, rule⟩
  exact ⟨added, grown, moves, rule, counted⟩

/-- Decorators obey their rules, and the count of a loop grows by its laps. -/
theorem decorator (files : tick.Files (FilesOne move)) (bound : Nat)
    (transform : Decorator) :
    (transform.ticker bound tick).Files fun before added answer after =>
      Moves move before.1 added after.1 ∧
        transform.Rules (added.map Account.status) answer ∧
        after.2 = if transform.isLoop then before.2 + added.length
          else before.2 := by
  cases transform with
  | invert | forceSuccess | forceFailure | forceRunning | runningIsSuccess
  | runningIsFailure =>
    intro state minutes step ends
    rw [Decorator.ticker] at ends
    rcases files.mapStatus _ _ _ _ ends with ⟨added, grown, moves, once, kept⟩
    exact ⟨added, grown, moves, (List.length_map ..).trans once, kept⟩
  | retry times reset => exact (files.repeatWhile .failure times).of_laps
  | repeated times reset => exact (files.repeatWhile .success times).of_laps
  | untilFailure reset => exact (files.untilFailure bound).of_laps

end Loops

/-! ### Several children -/

section Children

variable {move : Nat → σ → Account ι μ β → σ → Prop}
  {ticks : List (Ticker σ (Minutes (Account ι μ β) β))}

/-- Each of several tickers files what it does at its place. -/
abbrev Each (move : Nat → σ → Account ι μ β → σ → Prop)
    (ticks : List (Ticker σ (Minutes (Account ι μ β) β))) : Prop :=
  ∀ (place : Nat) (tick : Ticker σ (Minutes (Account ι μ β) β)),
    ticks[place]? = some tick → tick.Files (FilesOne (move place))

theorem inOrder (each : Each move ticks)
    (through : Status) :
    (Ticker.inOrder through ticks).Files fun before added _ after =>
      Moves (MovesOne move) before added after := by
  induction ticks generalizing move with
  | nil =>
    intro states minutes step ends
    cases ends
    exact ⟨[], (List.append_nil _).symm, .none⟩
  | cons tick ticks ih =>
    intro states minutes step ends
    cases states with
    | nil => cases ends
    | cons state states =>
      rcases exists_of_bind ends with ⟨first, ticked, goes⟩
      rcases each 0 tick rfl _ _ _ ticked with
        ⟨_, grown, account, rfl, _, moved⟩
      have moves : MovesOne move (state :: states) account
          (first.state :: states) := ⟨0, state, first.state, rfl, moved, rfl⟩
      split at goes
      next =>
        rcases exists_of_bind goes with ⟨later, tickedOn, same⟩
        cases same
        have others : Each (fun place => move (place + 1)) ticks :=
          fun place other found => each (place + 1) other found
        rcases ih others _ _ _ tickedOn with ⟨added, grownOn, movesOn⟩
        refine ⟨account :: added, grown_on grown grownOn, .next moves ?_⟩
        refine movesOn.embed (first.state :: ·) ?_
        rintro states other _ ⟨place, state, next, here, movedToo, rfl⟩
        exact ⟨place + 1, state, next, here, movedToo, rfl⟩
      next =>
        cases goes
        exact ⟨[account], grown, .next moves .none⟩

theorem inParallel (each : Each move ticks)
    (minSuccess maxFailures : Nat) (order : List Nat)
    (successes failures : Nat) :
    (Ticker.inParallel ticks minSuccess maxFailures order successes
      failures).Files fun before added _ after =>
        Moves (MovesOne move) before added after := by
  induction order generalizing successes failures with
  | nil =>
    intro states minutes step ends
    cases ends
    exact ⟨[], (List.append_nil _).symm, .none⟩
  | cons place order ih =>
    intro states minutes step ends
    simp only [Ticker.inParallel] at ends
    split at ends
    next tick state found here =>
      rcases exists_of_bind ends with ⟨first, ticked, goes⟩
      rcases each place tick found _ _ _ ticked with
        ⟨_, grown, account, rfl, _, moved⟩
      have moves : MovesOne move states account (states.set place first.state) :=
        ⟨place, state, first.state, here, moved, rfl⟩
      have goesOn : ∀ successes failures,
          Ticker.inParallel ticks minSuccess maxFailures order successes failures
            (states.set place first.state) first.board = .ok step →
          ∃ added, step.board.accounts = minutes.accounts ++ added ∧
            Moves (MovesOne move) states added step.state := by
        intro successes failures tickedOn
        rcases ih _ _ _ _ _ tickedOn with ⟨added, grownOn, movesOn⟩
        exact ⟨account :: added, grown_on grown grownOn, .next moves movesOn⟩
      split at goes
      · split at goes
        · cases goes
          exact ⟨[account], grown, .next moves .none⟩
        · exact goesOn _ _ goes
      · split at goes
        · cases goes
          exact ⟨[account], grown, .next moves .none⟩
        · exact goesOn _ _ goes
      · exact goesOn _ _ goes
    next => cases ends

end Children

/-- A node obeys the rule of its kind and counts its laps, while one or the other of
its children moves. -/
theorem node [Blackboard β]
    {move : Nat → Trace μ → Account ι μ β → Trace μ → Prop}
    {ticks : List (Ticker (Trace μ) (Minutes (Account ι μ β) β))}
    (each : Each move ticks)
    (bound : Nat) (kind : Kind μ β) :
    (kind.minuted.ticker bound ticks).Files fun before added answer after =>
      Moves (MovesOne move) before.children added after.children ∧
        kind.Rules (added.map Account.status) answer ∧
        after.count = kind.counted before.count added.length := by
  rintro ⟨status, count, memory, traces⟩ minutes step ends
  cases kind with
  | sequence | fallback =>
    rcases exists_of_bind ends with ⟨first, ticked, same⟩
    cases same
    rcases inOrder each _ _ _ _ ticked with ⟨added, grown, moves⟩
    exact ⟨added, grown, moves, trivial, rfl⟩
  | parallel minSuccess =>
    rcases exists_of_bind ends with ⟨first, ticked, same⟩
    cases same
    rw [Ticker.parallel] at ticked
    split at ticked
    next => cases ticked
    next =>
      rcases inParallel each _ _ _ _ _ _ _ _ ticked with ⟨added, grown, moves⟩
      exact ⟨added, grown, moves, trivial, rfl⟩
  | decorator transform =>
    cases traces with
    | nil => cases ends
    | cons trace traces =>
      cases ticks with
      | nil => cases ends
      | cons tick ticks =>
        rcases exists_of_bind ends with ⟨first, ticked, same⟩
        cases same
        rcases (each 0 tick rfl).decorator bound transform _ _ _ ticked with
          ⟨added, grown, moves, rules, counted⟩
        refine ⟨added, grown, ?_, rules, ?_⟩
        · refine moves.embed (· :: traces) ?_
          exact fun state account next moved =>
            ⟨0, state, next, rfl, moved, rfl⟩
        · rw [Trace.count, counted, Kind.counted]
          cases transform <;> rfl
  | leaf behavior =>
    cases ends
    exact ⟨[], (List.append_nil _).symm, .none, trivial, rfl⟩

end Ticker.Files

end Disclosure
