import Disclosure.Proofs.Protocol.Conditions
import Mathlib

/-!
# The numbers that doubles stand for

A double is a sign, a scale and digits, or an infinity, or not a number at all.
Read by these fields, a power of one half is exactly that power as long as it is
not too small or too large for a double, and the fractions that count as lying
below a double are those that are less than its number.
-/

namespace Disclosure

open Float.Model

/-- The rational numbers and the two infinities. -/
abbrev Extended := WithBot (WithTop ℚ)

namespace Extended

/-- A rational number as an extended one. -/
def ofRat (number : ℚ) : Extended := ((number : WithTop ℚ) : Extended)

@[simp]
theorem ofRat_inj {left right : ℚ} :
    ofRat left = ofRat right ↔ left = right := by
  simp [ofRat]

@[simp]
theorem ofRat_lt_ofRat {left right : ℚ} :
    ofRat left < ofRat right ↔ left < right := by
  simp [ofRat]

@[simp]
theorem ofRat_le_ofRat {left right : ℚ} :
    ofRat left ≤ ofRat right ↔ left ≤ right := by
  simp [ofRat]

@[simp]
theorem ofRat_lt_top (number : ℚ) : ofRat number < ⊤ :=
  WithBot.coe_lt_coe.mpr (WithTop.coe_lt_top number)

end Extended

/-- The number that a double stands for; none for what is not a number. -/
def numberOf? (value : Float) : Option Extended :=
  match value.toModel.unpack with
  | .infinity .positive => some ⊤
  | .infinity .negative => some ⊥
  | .notANumber => none
  | .zero _ => some (.ofRat 0)
  | .finite sign digits exponent _ =>
    some (.ofRat (sign.apply digits * 2 ^ exponent))

/-! ## The fields of a double -/

/-- The number in the exponent field. -/
def scaleField (bits : UInt64) : Nat := bits.toNat / 2 ^ 52 % 2 ^ 11

/-- The number in the field of the digits. -/
def digitField (bits : UInt64) : Nat := bits.toNat % 2 ^ 52

section Fields

variable (bits : UInt64)

theorem toNat_shift_and :
    ((bits >>> 52) &&& 0x7ff).toNat = scaleField bits := by
  rw [UInt64.toNat_and, UInt64.toNat_shiftRight, Nat.shiftRight_eq_div_pow]
  exact Nat.and_two_pow_sub_one_eq_mod _ 11

theorem toNat_and_digits :
    (bits &&& 0xfffffffffffff).toNat = digitField bits := by
  rw [UInt64.toNat_and]
  exact Nat.and_two_pow_sub_one_eq_mod _ 52

theorem toNat_shift_sign : (bits >>> 63).toNat = bits.toNat / 2 ^ 63 := by
  rw [UInt64.toNat_shiftRight, Nat.shiftRight_eq_div_pow]
  rfl

theorem toNat_unpackExponent :
    (@UnpackedFloat.unpackExponent .binary64 bits.toBitVec).toNat =
      scaleField bits := by
  rw [UnpackedFloat.unpackExponent, BitVec.toNat_cast,
    BitVec.extractLsb_toNat, Nat.shiftRight_eq_div_pow]
  rfl

theorem toNat_unpackMantissa :
    (@UnpackedFloat.unpackMantissa .binary64 bits.toBitVec).toNat =
      digitField bits := by
  rw [UnpackedFloat.unpackMantissa, BitVec.toNat_cast, BitVec.extractLsb_toNat]
  rfl

theorem toNat_unpackSign :
    (@UnpackedFloat.unpackSign .binary64 bits.toBitVec).toNat =
      bits.toNat / 2 ^ 63 := by
  rw [UnpackedFloat.unpackSign, BitVec.toNat_cast, BitVec.extractLsb_toNat,
    Nat.shiftRight_eq_div_pow]
  refine Nat.mod_eq_of_lt ?_
  have bound := bits.toNat_lt
  change bits.toNat / 2 ^ 63 < 2
  omega

theorem unpackExponent_eq_ones_iff :
    @UnpackedFloat.unpackExponent .binary64 bits.toBitVec =
        -1#(Format.binary64.exponentBits) ↔
      scaleField bits = 2047 := by
  rw [← toNat_unpackExponent, ← BitVec.toNat_inj]
  rfl

theorem unpackExponent_eq_zero_iff :
    @UnpackedFloat.unpackExponent .binary64 bits.toBitVec =
        0#(Format.binary64.exponentBits) ↔
      scaleField bits = 0 := by
  rw [← toNat_unpackExponent, ← BitVec.toNat_inj]
  rfl

theorem unpackMantissa_eq_zero_iff :
    @UnpackedFloat.unpackMantissa .binary64 bits.toBitVec =
        0#(Format.binary64.mantissaBitsWithoutImplicit) ↔
      digitField bits = 0 := by
  rw [← toNat_unpackMantissa, ← BitVec.toNat_inj]
  rfl

theorem unpackSign_eq_zero_iff :
    @UnpackedFloat.unpackSign .binary64 bits.toBitVec = 0#1 ↔
      bits.toNat < 2 ^ 63 := by
  rw [← BitVec.toNat_inj, toNat_unpackSign]
  exact Nat.div_eq_zero_iff_lt (by decide)

/-- Bits that are not those of something that is not a number are kept. -/
theorem toBits_ofBits
    (number : scaleField bits ≠ 2047 ∨ digitField bits = 0) :
    (Float.ofBits bits).toBits = bits := by
  have stays : ¬ @UnpackedFloat.isNaNBits .binary64 bits.toBitVec := by
    rw [UnpackedFloat.isNaNBits, decide_eq_true_iff,
      unpackExponent_eq_ones_iff, ne_eq, unpackMantissa_eq_zero_iff]
    rintro ⟨ones, digits⟩
    exact number.elim (absurd ones) digits
  have packed := @UnpackedFloat.pack_unpack .binary64 bits.toBitVec (by decide)
  rw [if_neg stays] at packed
  exact congrArg UInt64.ofBitVec packed

end Fields

/-- One with the sign of a double. -/
def signOf (bits : UInt64) : ℚ := if bits.toNat < 2 ^ 63 then 1 else -1

theorem sign_apply (bits : UInt64) (digits : ℤ) :
    ((UnpackedFloat.Sign.ofBitVec
      (@UnpackedFloat.unpackSign .binary64 bits.toBitVec)).apply digits : ℚ) =
      signOf bits * digits := by
  rw [UnpackedFloat.Sign.ofBitVec, signOf]
  by_cases positive : bits.toNat < 2 ^ 63
  · rw [if_pos ((unpackSign_eq_zero_iff bits).mpr positive), if_pos positive,
      one_mul]
    rfl
  · rw [if_neg (mt (unpackSign_eq_zero_iff bits).mp positive), if_neg positive,
      neg_one_mul]
    exact Int.cast_neg digits

section Number

variable (value : Float)

theorem unpack_eq : value.toModel.unpack =
    UnpackedFloat.unpack .binary64 value.toBits.toBitVec :=
  rfl

/-- At the largest scale stand the infinities and what is not a number. -/
theorem numberOf?_of_largest (largest : scaleField value.toBits = 2047) :
    numberOf? value =
      if digitField value.toBits = 0 then
        some (if value.toBits.toNat < 2 ^ 63 then ⊤ else ⊥)
      else none := by
  rw [numberOf?, unpack_eq, UnpackedFloat.unpack]
  rw [if_pos ((unpackExponent_eq_ones_iff _).mpr largest)]
  by_cases none : digitField value.toBits = 0
  · rw [if_pos ((unpackMantissa_eq_zero_iff _).mpr none), if_pos none,
      UnpackedFloat.Sign.ofBitVec]
    by_cases positive : value.toBits.toNat < 2 ^ 63
    · rw [if_pos ((unpackSign_eq_zero_iff _).mpr positive), if_pos positive]
    · rw [if_neg (mt (unpackSign_eq_zero_iff _).mp positive), if_neg positive]
  · rw [if_neg (mt (unpackMantissa_eq_zero_iff _).mp none), if_neg none]

/-- At the smallest scale the digits are all there is. -/
theorem numberOf?_of_smallest (smallest : scaleField value.toBits = 0) :
    numberOf? value =
      some (.ofRat (signOf value.toBits *
        (digitField value.toBits * (2 : ℚ) ^ (-1074 : ℤ)))) := by
  rw [numberOf?, unpack_eq, UnpackedFloat.unpack]
  rw [if_neg (mt (unpackExponent_eq_ones_iff _).mp (by omega)),
    if_pos ((unpackExponent_eq_zero_iff _).mpr smallest)]
  by_cases none : digitField value.toBits = 0
  · rw [dif_pos ((unpackMantissa_eq_zero_iff _).mpr none), none]
    simp
  · rw [dif_neg (mt (unpackMantissa_eq_zero_iff _).mp none)]
    simp only [sign_apply, toNat_unpackMantissa, toNat_unpackExponent, smallest]
    rw [mul_assoc]
    rfl

/-- In between, a one stands before the digits. -/
theorem numberOf?_of_between (notLargest : scaleField value.toBits ≠ 2047)
    (notSmallest : scaleField value.toBits ≠ 0) :
    numberOf? value =
      some (.ofRat (signOf value.toBits *
        (((2 ^ 52 + digitField value.toBits : Nat) : ℚ) *
          (2 : ℚ) ^ ((scaleField value.toBits : ℤ) - 1075)))) := by
  rw [numberOf?, unpack_eq, UnpackedFloat.unpack]
  rw [if_neg (mt (unpackExponent_eq_ones_iff _).mp notLargest),
    if_neg (mt (unpackExponent_eq_zero_iff _).mp notSmallest)]
  have leading : (1#1 ++ @UnpackedFloat.unpackMantissa .binary64
      value.toBits.toBitVec).toNat = 2 ^ 52 + digitField value.toBits := by
    rw [BitVec.toNat_append, ← Nat.shiftLeft_add_eq_or_of_lt (BitVec.isLt _),
      toNat_unpackMantissa, Nat.shiftLeft_eq]
    rfl
  simp only [sign_apply, leading, toNat_unpackExponent]
  rw [mul_assoc]
  rfl

end Number

/-- The number of a positive double that is put together from its fields. -/
theorem numberOf?_ofBits {bits : UInt64} {scale digits : Nat}
    (composed : bits.toNat = 2 ^ 52 * scale + digits)
    (finite : scale < 2047) (within : digits < 2 ^ 52) :
    numberOf? (Float.ofBits bits) =
      some (.ofRat (if scale = 0 then digits * (2 : ℚ) ^ (-1074 : ℤ)
        else ((2 ^ 52 + digits : Nat) : ℚ) * (2 : ℚ) ^ ((scale : ℤ) - 1075))) := by
  have scaled : scaleField bits = scale := by
    rw [scaleField]
    omega
  have written : digitField bits = digits := by
    rw [digitField]
    omega
  have positive : signOf bits = 1 := if_pos (by omega)
  have kept := toBits_ofBits bits (.inl (by omega))
  split
  case isTrue smallest =>
    rw [numberOf?_of_smallest _ (by rw [kept, scaled, smallest]), kept,
      positive, written, one_mul]
  case isFalse above =>
    rw [numberOf?_of_between _ (by rw [kept]; omega) (by rw [kept]; omega),
      kept, positive, written, scaled, one_mul]

/-! ## The smallest positive double -/

/-- The number of the smallest positive double. -/
def leastDouble : ℚ := (1 / 2) ^ 1074

theorem leastDouble_eq : leastDouble = (2 : ℚ) ^ (-1074 : ℤ) := by
  rw [leastDouble, one_div, inv_pow, zpow_neg]
  rfl

theorem numberOf?_leastDouble :
    numberOf? (Float.ofBits 1) = some (.ofRat leastDouble) := by
  have composed : (1 : UInt64).toNat = 2 ^ 52 * 0 + 1 := rfl
  rw [numberOf?_ofBits composed (by decide) (by decide), if_pos rfl,
    leastDouble_eq, Nat.cast_one, one_mul]

theorem signOf_eq_one {bits : UInt64} {size : ℚ} (nonneg : 0 ≤ size)
    (positive : 0 < signOf bits * size) : signOf bits = 1 := by
  by_cases unsigned : bits.toNat < 2 ^ 63
  · exact if_pos unsigned
  · have sign : signOf bits = -1 := if_neg unsigned
    rw [sign, neg_one_mul, neg_pos] at positive
    exact absurd nonneg positive.not_ge

theorem leastDouble_le {value : Float} {number : ℚ} (positive : 0 < number)
    (stands : numberOf? value = some (.ofRat number)) :
    leastDouble ≤ number := by
  rw [leastDouble_eq]
  by_cases largest : scaleField value.toBits = 2047
  · rw [numberOf?_of_largest value largest] at stands
    split_ifs at stands
    · exact absurd (Option.some.inj stands) (Extended.ofRat_lt_top number).ne'
    · cases stands
  by_cases smallest : scaleField value.toBits = 0
  · rw [numberOf?_of_smallest value smallest, Option.some_inj,
      Extended.ofRat_inj] at stands
    subst stands
    have sign := signOf_eq_one (by positivity) positive
    rw [sign, one_mul] at positive ⊢
    have digits : 0 < digitField value.toBits := by
      refine Nat.pos_of_ne_zero fun none => ?_
      simp [none] at positive
    refine le_mul_of_one_le_left (by positivity) ?_
    exact_mod_cast digits
  · rw [numberOf?_of_between value largest smallest, Option.some_inj,
      Extended.ofRat_inj] at stands
    subst stands
    rw [signOf_eq_one (by positivity) positive, one_mul]
    have scale : (2 : ℚ) ^ (-1074 : ℤ) ≤
        (2 : ℚ) ^ ((scaleField value.toBits : ℤ) - 1075) :=
      zpow_le_zpow_right₀ one_le_two (by omega)
    refine scale.trans (le_mul_of_one_le_left (by positivity) ?_)
    exact_mod_cast Nat.le_add_right_of_le (Nat.one_le_two_pow)

/-- No positive double is smaller, and it is one. -/
theorem isLeast_leastDouble :
    IsLeast {number | 0 < number ∧
      ∃ value, numberOf? value = some (.ofRat number)} leastDouble := by
  constructor
  · exact ⟨pow_pos one_half_pos 1074, _, numberOf?_leastDouble⟩
  · rintro number ⟨positive, value, stands⟩
    exact leastDouble_le positive stands

/-! ## Powers of one half -/

theorem numberOf?_halfPower_of_large {exponent : Int}
    (large : 1074 < exponent) :
    numberOf? (halfPower exponent) = some (.ofRat 0) := by
  rw [halfPower, if_pos large]
  rfl

theorem numberOf?_halfPower_of_small {exponent : Int}
    (small : exponent ≤ -1024) :
    numberOf? (halfPower exponent) = some ⊤ := by
  rw [halfPower, if_neg (by omega), if_neg (by omega), if_neg (by omega)]
  have kept := toBits_ofBits 0x7ff0000000000000 (.inr (by decide))
  rw [numberOf?_of_largest _ (by rw [kept]; decide), kept]
  rfl

theorem toNat_shift {shift : Nat} (within : shift < 52) :
    ((1 : UInt64) <<< shift.toUInt64).toNat = 2 ^ shift := by
  have count : shift.toUInt64.toNat % 64 = shift := by
    rw [Nat.toUInt64_eq, UInt64.toNat_ofNat']
    omega
  have bound : 2 ^ shift < 2 ^ 64 := Nat.pow_lt_pow_right (by decide) (by omega)
  rw [UInt64.toNat_shiftLeft, count, UInt64.toNat_one, Nat.one_shiftLeft,
    Nat.mod_eq_of_lt bound]

theorem toNat_scale {scale : Nat} (within : scale < 2047) :
    (scale.toUInt64 <<< 52).toNat = 2 ^ 52 * scale := by
  have count : scale.toUInt64.toNat = scale := by
    rw [Nat.toUInt64_eq, UInt64.toNat_ofNat']
    omega
  rw [UInt64.toNat_shiftLeft, count, Nat.shiftLeft_eq]
  change scale * 2 ^ 52 % 2 ^ 64 = 2 ^ 52 * scale
  omega

theorem numberOf?_halfPower {exponent : Int}
    (above : -1024 < exponent) (below : exponent ≤ 1074) :
    numberOf? (halfPower exponent) =
      some (.ofRat ((2 : ℚ) ^ (-exponent))) := by
  rw [halfPower, if_neg (by omega)]
  by_cases small : 1022 < exponent
  · obtain ⟨shift, rfl⟩ : ∃ shift : Nat, exponent = 1074 - shift :=
      ⟨(1074 - exponent).toNat, by omega⟩
    have shifts : (1074 - (1074 - (shift : Int))).toNat = shift := by omega
    have within : shift < 52 := by omega
    have composed : ((1 : UInt64) <<< shift.toUInt64).toNat =
        2 ^ 52 * 0 + 2 ^ shift := by
      rw [toNat_shift within, Nat.mul_zero, Nat.zero_add]
    rw [if_pos small, shifts, numberOf?_ofBits composed (by decide)
      (Nat.pow_lt_pow_right (by decide) within), if_pos rfl]
    rw [Nat.cast_pow, Nat.cast_ofNat, ← zpow_natCast, ← zpow_add₀ two_ne_zero,
      neg_sub, sub_eq_add_neg]
  · obtain ⟨scale, rfl⟩ : ∃ scale : Nat, exponent = 1023 - scale :=
      ⟨(1023 - exponent).toNat, by omega⟩
    have scales : (1023 - (1023 - (scale : Int))).toNat = scale := by omega
    have within : scale < 2047 := by omega
    have composed : (scale.toUInt64 <<< 52).toNat = 2 ^ 52 * scale + 0 := by
      rw [toNat_scale within, Nat.add_zero]
    rw [if_neg small, if_pos above, scales,
      numberOf?_ofBits composed within (by decide), if_neg (by omega)]
    have exponents :
        ((52 : Nat) : Int) + ((scale : Int) - 1075) = -(1023 - scale) := by
      omega
    rw [Nat.add_zero, Nat.cast_pow, Nat.cast_ofNat, ← zpow_natCast,
      ← zpow_add₀ two_ne_zero, exponents]

/-! ## Fractions below a double -/

/-- A fraction is less than a multiple of a small power of two when it counts
less than the multiple, rounded up to whole steps between fractions. -/
theorem lt_steps_iff (count digits shift : Nat) :
    count < (digits + Nat.pow 2 shift - 1) / Nat.pow 2 shift ↔
      (count / 2 ^ 53 : ℚ) < digits * (2 : ℚ) ^ (-((shift : ℤ) + 53)) := by
  have positive : 0 < 2 ^ shift := Nat.two_pow_pos shift
  have scaled : (digits * (2 : ℚ) ^ (-((shift : ℤ) + 53)) : ℚ) =
      digits / 2 ^ shift / 2 ^ 53 := by
    rw [zpow_neg, zpow_add₀ two_ne_zero, zpow_natCast, mul_inv, ← mul_assoc]
    rfl
  have steps : count < (digits + 2 ^ shift - 1) / 2 ^ shift ↔
      count * 2 ^ shift < digits := by
    rw [Nat.lt_iff_add_one_le, Nat.le_div_iff_mul_le positive, Nat.add_mul]
    omega
  rw [scaled, div_lt_div_iff_of_pos_right (by positivity),
    lt_div_iff₀ (by positivity)]
  exact steps.trans (by exact_mod_cast Iff.rfl)

theorem fraction_lt_one {count : Nat} (within : count < 2 ^ 53) :
    (count / 2 ^ 53 : ℚ) < 1 := by
  rw [div_lt_one (by positivity)]
  exact_mod_cast within

/-- A negative double stands for nothing above zero. -/
theorem numberOf?_le_zero {value : Float} {number : Extended}
    (negative : ¬ value.toBits.toNat < 2 ^ 63)
    (stands : numberOf? value = some number) :
    number ≤ .ofRat 0 := by
  have sign : signOf value.toBits = -1 := if_neg negative
  by_cases largest : scaleField value.toBits = 2047
  · rw [numberOf?_of_largest value largest, if_neg negative] at stands
    split at stands
    · cases stands
      exact bot_le
    · cases stands
  · by_cases smallest : scaleField value.toBits = 0
    · rw [numberOf?_of_smallest value smallest, sign] at stands
      cases stands
      rw [Extended.ofRat_le_ofRat, neg_one_mul, neg_nonpos]
      positivity
    · rw [numberOf?_of_between value largest smallest, sign] at stands
      cases stands
      rw [Extended.ofRat_le_ofRat, neg_one_mul, neg_nonpos]
      positivity

/-- A fraction counts as below a double when it is less than its number. -/
theorem lt_fractionsBelow_iff {count : Nat} (within : count < 2 ^ 53)
    (value : Float) :
    count < fractionsBelow value ↔
      ∃ number, numberOf? value = some number ∧
        .ofRat (count / 2 ^ 53) < number := by
  have signed : value.toBits >>> 63 = 1 ↔ ¬ value.toBits.toNat < 2 ^ 63 := by
    have bound := value.toBits.toNat_lt
    rw [← UInt64.toNat_inj, toNat_shift_sign, UInt64.toNat_one]
    omega
  simp only [fractionsBelow, toNat_shift_and, toNat_and_digits, signed]
  -- the cases follow the counting: below zero, no finite number, digits alone,
  -- one and more, and below one with a leading one
  by_cases positive : value.toBits.toNat < 2 ^ 63
  case neg =>
    rw [if_pos positive]
    refine iff_of_false (Nat.not_lt_zero _) ?_
    rintro ⟨number, stands, below⟩
    have nonneg : (0 : ℚ) ≤ count / 2 ^ 53 := by positivity
    have := below.trans_le (numberOf?_le_zero positive stands)
    rw [Extended.ofRat_lt_ofRat] at this
    exact this.not_ge nonneg
  have sign : signOf value.toBits = 1 := if_pos positive
  rw [if_neg (not_not_intro positive)]
  by_cases largest : scaleField value.toBits = 2047
  · rw [numberOf?_of_largest value largest, if_pos positive]
    by_cases none : digitField value.toBits = 0
    · rw [if_neg (fun both => both.2 none), if_pos (by omega), if_pos none]
      exact iff_of_true within ⟨⊤, rfl, Extended.ofRat_lt_top _⟩
    · rw [if_pos ⟨largest, none⟩, if_neg none]
      exact iff_of_false (Nat.not_lt_zero _) nofun
  rw [if_neg (fun both => largest both.1)]
  by_cases smallest : scaleField value.toBits = 0
  · rw [if_neg (by omega), if_pos smallest,
      numberOf?_of_smallest value smallest, sign, one_mul]
    simp only [Option.some.injEq, exists_eq_left', Extended.ofRat_lt_ofRat]
    generalize lowest : (1021 : Nat) = shift
    have shifted : -((shift : ℤ) + 53) = -1074 := by omega
    rw [lt_steps_iff, shifted]
  rw [numberOf?_of_between value largest smallest, sign, one_mul]
  simp only [Option.some.injEq, exists_eq_left', Extended.ofRat_lt_ofRat]
  by_cases whole : 1023 ≤ scaleField value.toBits
  · rw [if_pos whole]
    refine iff_of_true within ((fraction_lt_one within).trans_le ?_)
    calc (1 : ℚ) = (2 ^ 52 : ℚ) * (2 : ℚ) ^ (-52 : ℤ) := by norm_num
      _ ≤ ((2 ^ 52 + digitField value.toBits : Nat) : ℚ) *
          (2 : ℚ) ^ ((scaleField value.toBits : ℤ) - 1075) := by
        gcongr
        · push_cast
          exact le_add_of_nonneg_right (Nat.cast_nonneg _)
        · norm_num
        · omega
  · have shifted : -(((1022 - scaleField value.toBits : Nat) : ℤ) + 53) =
        (scaleField value.toBits : ℤ) - 1075 := by
      omega
    rw [if_neg whole, if_neg smallest, lt_steps_iff, shifted]
    rfl

theorem toNat_nextFraction_lt (stream : RandomStream) :
    stream.nextFraction.1.toNat < 2 ^ 53 := by
  rw [← Nat.one_shiftLeft]
  exact stream.nextFraction_lt

/-- A draw succeeds when its fraction is less than the number of the chance. -/
theorem Weight.sample_chance_iff (value : Float) (stream : RandomStream) :
    ((Weight.chance value).sample stream).1 = .success ↔
      ∃ number, numberOf? value = some number ∧
        .ofRat (stream.nextFraction.1.toNat / 2 ^ 53) < number := by
  rw [← lt_fractionsBelow_iff (toNat_nextFraction_lt stream)]
  simp [Weight.sample]

end Disclosure
