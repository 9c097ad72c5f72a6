import Disclosure.Proofs.Protocol.Deeds
import Disclosure.Proofs.Random.Doubles

/-!
# The willingness to change the priority

Whoever looks at the priority is asked first whether to change it at all, with a
chance that the number of changes so far decides.  In the lower half of the range
of that number every change halves the chance, so that a draw that makes an actor
willing would have done so after fewer changes as well.  In the upper half the
number counts as negative: the chance is more than sure, and so is every draw.
-/

namespace Disclosure

/-- One half to the power of a count, or zero where that is less than the
smallest positive double. -/
def halved (count : Nat) : ℚ :=
  if (1 / 2) ^ count < leastDouble then 0 else (1 / 2) ^ count

theorem lt_leastDouble_iff {count : Nat} :
    (1 / 2 : ℚ) ^ count < leastDouble ↔ 1074 < count :=
  pow_lt_pow_iff_right_of_lt_one₀ (by norm_num) (by norm_num)

theorem halved_of_le {count : Nat} (within : count ≤ 1074) :
    halved count = (1 / 2) ^ count :=
  if_neg (mt lt_leastDouble_iff.mp within.not_gt)

theorem halved_of_lt {count : Nat} (beyond : 1074 < count) : halved count = 0 :=
  if_pos (lt_leastDouble_iff.mpr beyond)

theorem halved_zero : halved 0 = 1 := by
  rw [halved_of_le (by decide), pow_zero]

theorem halved_anti : Antitone halved := by
  intro less more le
  by_cases within : more ≤ 1074
  · rw [halved_of_le within, halved_of_le (le.trans within)]
    exact pow_le_pow_of_le_one (by norm_num) (by norm_num) le
  · rw [halved_of_lt (not_le.mp within), halved]
    split_ifs
    · exact le_rfl
    · positivity

/-- The signed reading of a count: the upper half of the range is negative. -/
theorem toInt_toInt32 (count : UInt32) :
    count.toInt32.toInt =
      if count.toNat < 2 ^ 31 then (count.toNat : Int)
      else (count.toNat : Int) - 2 ^ 32 := by
  change count.toBitVec.toInt = _
  rw [BitVec.toInt_eq_toNat_cond, UInt32.toNat_toBitVec]
  split_ifs with half lower lower
  · rfl
  · omega
  · omega
  · rfl

/-- What the chance is meant to be in the lower half of the range of a count, and
what it is in the upper half. -/
def chanceOf (count : Nat) : Extended :=
  if count < 2 ^ 31 then .ofRat (halved count)
  else if 2 ^ 32 - count < 1024 then .ofRat (2 ^ (2 ^ 32 - count))
  else ⊤

section Chances

variable {less more count : Nat}

theorem chanceOf_eq_halved (lower : count < 2 ^ 31) :
    chanceOf count = .ofRat (halved count) :=
  if_pos lower

theorem one_lt_chanceOf (upper : 2 ^ 31 ≤ count) (bound : count < 2 ^ 32) :
    .ofRat 1 < chanceOf count := by
  rw [chanceOf, if_neg (by omega)]
  split_ifs with finite
  · rw [Extended.ofRat_lt_ofRat]
    exact one_lt_pow₀ one_lt_two (by omega)
  · exact Extended.ofRat_lt_top 1

theorem halved_le_one (count : Nat) : halved count ≤ 1 :=
  (halved_anti (Nat.zero_le count)).trans halved_zero.le

theorem chanceOf_le_one_iff (bound : count < 2 ^ 32) :
    chanceOf count ≤ .ofRat 1 ↔ count < 2 ^ 31 := by
  constructor
  · intro most
    by_contra upper
    exact most.not_gt (one_lt_chanceOf (by omega) bound)
  · intro lower
    rw [chanceOf_eq_halved lower, Extended.ofRat_le_ofRat]
    exact halved_le_one count

theorem chanceOf_eq_halved_iff (bound : count < 2 ^ 32) :
    chanceOf count = .ofRat (halved count) ↔ count < 2 ^ 31 := by
  refine ⟨fun same => ?_, chanceOf_eq_halved⟩
  rw [← chanceOf_le_one_iff bound, same, Extended.ofRat_le_ofRat]
  exact halved_le_one count

theorem chanceOf_anti (lower : more < 2 ^ 31) (le : less ≤ more) :
    chanceOf more ≤ chanceOf less := by
  rw [chanceOf_eq_halved lower, chanceOf_eq_halved (by omega),
    Extended.ofRat_le_ofRat]
  exact halved_anti le

end Chances

namespace ActorState

/-- The number of the chance with which the actor is asked. -/
def chance? (state : ActorState) : Option Extended :=
  numberOf? state.willingness.successProbability

/-- A draw from the stream makes the actor willing. -/
def Willing (state : ActorState) (stream : RandomStream) : Prop :=
  (state.willingness.sample stream).1 = .success

variable (state : ActorState)

theorem chance?_eq :
    state.chance? = some (chanceOf state.prioritizations.toNat) := by
  change numberOf? (halfPower state.prioritizations.toInt32.toInt) = _
  have bound := state.prioritizations.toNat_lt
  rw [toInt_toInt32, chanceOf]
  by_cases lower : state.prioritizations.toNat < 2 ^ 31
  · rw [if_pos lower, if_pos lower]
    by_cases within : state.prioritizations.toNat ≤ 1074
    · rw [numberOf?_halfPower (by omega) (by omega), halved_of_le within,
        zpow_neg, zpow_natCast, one_div, inv_pow]
    · rw [numberOf?_halfPower_of_large (by omega), halved_of_lt (by omega)]
  rw [if_neg lower, if_neg lower]
  by_cases finite : 2 ^ 32 - state.prioritizations.toNat < 1024
  · have exponent : -((state.prioritizations.toNat : Int) - 2 ^ 32) =
        ((2 ^ 32 - state.prioritizations.toNat : Nat) : Int) := by
      omega
    rw [numberOf?_halfPower (by omega) (by omega), if_pos finite, exponent,
      zpow_natCast]
  · rw [numberOf?_halfPower_of_small (by omega), if_neg finite]

theorem willing_iff (stream : RandomStream) :
    state.Willing stream ↔
      .ofRat (stream.nextFraction.1.toNat / 2 ^ 53) <
        chanceOf state.prioritizations.toNat := by
  have number := state.chance?_eq
  rw [Willing, willingness, Weight.sample_chance_iff]
  rw [chance?, willingness, Weight.successProbability] at number
  simp [number]

/-- The actor was asked about the decisions, one after the other, and nothing has
become of the priority yet. -/
structure WasAsked (answers : List Answer) (before after : ActorState) :
    Prop where
  record : after.arbiter.record.toList =
    before.arbiter.record.toList ++ answers
  priority : after.priority = before.priority
  prioritizations : after.prioritizations = before.prioritizations

theorem wasAsked_decide (decision : Decision) :
    WasAsked [⟨decision, (state.decide decision).1⟩] state
      (state.decide decision).2 where
  record := Array.toList_push
  priority := rfl
  prioritizations := rfl

theorem WasAsked.trans {earlier later : List Answer}
    {before middle after : ActorState} (first : WasAsked earlier before middle)
    (second : WasAsked later middle after) :
    WasAsked (earlier ++ later) before after where
  record := by
    rw [second.record, first.record, List.append_assoc]
  priority := second.priority.trans first.priority
  prioritizations := second.prioritizations.trans first.prioritizations

theorem WasAsked.draw {answers : List Answer} {before after : ActorState}
    (asked : WasAsked answers before after) :
    WasAsked answers before after.drawPriority.2 :=
  ⟨asked.record, asked.priority, asked.prioritizations⟩

/-- Looking at the priority asks for the willingness, then perhaps for deferral, and
takes some priority over, be it the one that was there. -/
theorem wasAsked_evaluatePriority :
    ∃ deferrals middle priority,
      (∀ answer ∈ deferrals, answer.decision = deferralDecision) ∧
      WasAsked (⟨state.willingnessDecision,
        (state.decide state.willingnessDecision).1⟩ :: deferrals) state middle ∧
      state.evaluatePriority = middle.setPriority priority := by
  have first := state.wasAsked_decide state.willingnessDecision
  rcases state.evaluatePriority_cases with
    ⟨_, declined⟩ | ⟨_, middle, rfl, deferred | drawn⟩
  · exact ⟨[], _, _, nofun, first, declined.trans (setPriority_self _).symm⟩
  · exact ⟨[_], _, _, List.forall_mem_singleton.mpr rfl,
      first.trans (wasAsked_decide _ deferralDecision), deferred⟩
  · exact ⟨[_], _, _, List.forall_mem_singleton.mpr rfl,
      (first.trans (wasAsked_decide _ deferralDecision)).draw, drawn⟩

/-- Looking at the priority asks for the willingness, once and first.  An actor
that decides by drawing is willing when the draw says so; one that is not willing
does nothing more.  Changes are counted. -/
structure AsksWillingness : Prop where
  asks : ∃ deferrals : List Answer,
    (∀ answer ∈ deferrals, answer.decision = deferralDecision) ∧
    state.evaluatePriority.arbiter.record.toList =
      state.arbiter.record.toList ++
        ⟨state.willingnessDecision,
          (state.decide state.willingnessDecision).1⟩ :: deferrals
  draws : state.arbiter.policy = .weighted →
    ((state.decide state.willingnessDecision).1 = .success ↔
      state.Willing state.stream)
  declines : (state.decide state.willingnessDecision).1 ≠ .success →
    state.evaluatePriority = (state.decide state.willingnessDecision).2
  counts : state.evaluatePriority.prioritizations =
    if state.evaluatePriority.priority = state.priority then
      state.prioritizations
    else state.prioritizations + 1

theorem asksWillingness : state.AsksWillingness where
  asks := by
    rcases state.wasAsked_evaluatePriority with
      ⟨deferrals, middle, priority, second, asked, ends⟩
    refine ⟨deferrals, second, ?_⟩
    rw [ends, setPriority_eq]
    exact asked.record
  draws := by
    intro weighted
    change (state.arbiter.policy.settle _ _ _).1 = .success ↔ _
    rw [weighted]
    rfl
  declines declined := if_neg declined
  counts := by
    rcases state.wasAsked_evaluatePriority with
      ⟨_, middle, priority, _, asked, ends⟩
    rw [ends, setPriority_eq, asked.priority, asked.prioritizations]

/-! ## Where the chance decays -/

variable {state}

/-- A chance of one or more makes every draw a willing one. -/
theorem willing_of_sure
    (sure : .ofRat 1 ≤ chanceOf state.prioritizations.toNat)
    (stream : RandomStream) : state.Willing stream := by
  have within := toNat_nextFraction_lt stream
  rw [willing_iff]
  exact (Extended.ofRat_lt_ofRat.mpr (fraction_lt_one within)).trans_le sure

/-- A stream that yields the largest fraction next. -/
def reluctantStream : RandomStream :=
  { (default : RandomStream) with pending := [0xffffffff, 0xffffffff] }

theorem not_willing_reluctantStream
    (changed : state.prioritizations.toNat ≠ 0)
    (lower : state.prioritizations.toNat < 2 ^ 31) :
    ¬ state.Willing reluctantStream := by
  have largest : reluctantStream.nextFraction.1.toNat = 2 ^ 53 - 1 := by decide
  have half : halved state.prioritizations.toNat ≤ 1 / 2 := by
    have once : halved 1 = 1 / 2 := by rw [halved_of_le (by decide), pow_one]
    rw [← once]
    exact halved_anti (Nat.one_le_iff_ne_zero.mpr changed)
  rw [willing_iff, chanceOf_eq_halved lower, largest, Extended.ofRat_lt_ofRat,
    not_lt]
  exact half.trans (by norm_num)

/-- Whoever was willing after more changes would have been after fewer, and only
as long as the changes are in the lower half of their range. -/
theorem willing_anti_iff :
    (∀ earlier : ActorState, earlier.prioritizations ≤ state.prioritizations →
      ∀ stream, state.Willing stream → earlier.Willing stream) ↔
      state.prioritizations.toNat < 2 ^ 31 := by
  constructor
  · intro decays
    by_contra upper
    -- the largest fraction makes an actor willing now, but not after one change
    have sure := one_lt_chanceOf (by omega) state.prioritizations.toNat_lt
    have once : (1 : UInt32) ≤ state.prioritizations := by
      rw [UInt32.le_iff_toNat_le]
      exact le_trans (by decide) (not_lt.mp upper)
    exact not_willing_reluctantStream
      (show (1 : UInt32).toNat ≠ 0 by decide)
      (show (1 : UInt32).toNat < 2 ^ 31 by decide)
      (decays { state with prioritizations := 1 } once reluctantStream
        (willing_of_sure sure.le _))
  · intro lower earlier le stream willing
    rw [willing_iff] at willing ⊢
    exact willing.trans_le (chanceOf_anti lower (UInt32.le_iff_toNat_le.mp le))

/-- Every draw is a willing one before the first change and in the upper half. -/
theorem willing_always_iff :
    (∀ stream, state.Willing stream) ↔
      state.prioritizations.toNat = 0 ∨
        2 ^ 31 ≤ state.prioritizations.toNat := by
  constructor
  · intro always
    by_contra neither
    rw [not_or, not_le] at neither
    exact not_willing_reluctantStream neither.1 neither.2
      (always reluctantStream)
  · rintro (unchanged | upper)
    · refine willing_of_sure (le_of_eq ?_)
      rw [unchanged, chanceOf_eq_halved (by decide), halved_zero]
    · exact willing_of_sure
        (one_lt_chanceOf upper state.prioritizations.toNat_lt).le

end ActorState

open ActorState

/--
Whoever looks at the priority is asked for the willingness to change it.  In the
lower half of the range of the number of changes the chance is one half to the
power of this number, so that it is at most one and that more changes never make
a draw a willing one.  None of this holds in the upper half, where the chance is
above one and every draw is a willing one.
-/
theorem willingness_halves_in_lower_half (state : ActorState) :
    state.AsksWillingness ∧
    state.chance? = some (chanceOf state.prioritizations.toNat) ∧
    (state.chance? = some (.ofRat (halved state.prioritizations.toNat)) ↔
      state.prioritizations.toNat < 2 ^ 31) ∧
    ((∃ chance ≤ .ofRat 1, state.chance? = some chance) ↔
      state.prioritizations.toNat < 2 ^ 31) ∧
    ((∀ earlier : ActorState, earlier.prioritizations ≤ state.prioritizations →
      ∀ stream, state.Willing stream → earlier.Willing stream) ↔
      state.prioritizations.toNat < 2 ^ 31) ∧
    ((∀ stream, state.Willing stream) ↔
      state.prioritizations.toNat = 0 ∨
        2 ^ 31 ≤ state.prioritizations.toNat) := by
  have bound := state.prioritizations.toNat_lt
  have chance := state.chance?_eq
  refine ⟨state.asksWillingness, chance, ?halves, ?bounded, willing_anti_iff,
    willing_always_iff⟩
  case halves =>
    rw [chance, Option.some_inj]
    exact chanceOf_eq_halved_iff bound
  case bounded =>
    rw [← chanceOf_le_one_iff bound]
    constructor
    · rintro ⟨number, most, same⟩
      rwa [← Option.some_inj.mp (chance.symm.trans same)] at most
    · intro most
      exact ⟨_, most, chance⟩

/-- An actor that has changed the priority the given number of times. -/
def changeable (count : UInt32) : ActorState :=
  { ActorState.new "vendor" (.ofList [.vendor]) (.ofSeed 0) with
    prioritizations := count }

/-- After three changes the chance is one in eight, and a draw that suffices then
suffices after two changes. -/
theorem willingness_halves_of_changeable :
    (changeable 3).chance? = some (.ofRat (1 / 8)) ∧
    (((changeable 3).decide (changeable 3).willingnessDecision).1 = .success ↔
      (changeable 3).Willing (changeable 3).stream) ∧
    (changeable 2).prioritizations ≤ (changeable 3).prioritizations ∧
    ∀ stream, (changeable 3).Willing stream → (changeable 2).Willing stream := by
  obtain ⟨asks, chance, _, _, decays, _⟩ :=
    willingness_halves_in_lower_half (changeable 3)
  have eighth : halved 3 = 1 / 8 := by
    rw [halved_of_le (by decide)]
    norm_num
  have fewer : (changeable 2).prioritizations ≤ (changeable 3).prioritizations := by
    decide
  refine ⟨?_, asks.draws rfl, fewer, decays.mpr (by decide) _ fewer⟩
  rw [chance, ← eighth]
  exact congrArg some (chanceOf_eq_halved (by decide))

/-- After so many changes that they count as a negative number, the actor is
asked with an infinite chance where it should be none, and is willing upon a draw
that makes it unwilling after the first change. -/
theorem willingness_is_sure_in_upper_half :
    (changeable 0x80000000).chance? = some ⊤ ∧
    halved (changeable 0x80000000).prioritizations.toNat = 0 ∧
    (changeable 1).prioritizations ≤ (changeable 0x80000000).prioritizations ∧
    (changeable 0x80000000).Willing reluctantStream ∧
    ¬ (changeable 1).Willing reluctantStream := by
  have upper : 2 ^ 31 ≤ (changeable 0x80000000).prioritizations.toNat := by
    decide
  refine ⟨?_, halved_of_lt (lt_of_lt_of_le (by decide) upper), by decide,
    willing_always_iff.mpr (.inr upper) _,
    not_willing_reluctantStream (by decide) (by decide)⟩
  rw [chance?_eq]
  rfl

end Disclosure
