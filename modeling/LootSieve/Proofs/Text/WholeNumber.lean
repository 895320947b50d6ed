import Mathlib.Tactic.Ring
import LootSieve.Text.Numeral

/-! Reading digits as a double and holding the double within 32 bits gives the number that the
digits write, or the greatest number of 32 bits. Below 2^53 no bit is lost on the way; from there
on every double is beyond 32 bits, rounded or not. -/

namespace LootSieve.Text
open Float.Model Float.Model.UnpackedFloat

/-! Mantissas of full width. -/

/-- A mantissa whose leading bit is the 53rd. -/
def FillsMantissa (mantissa : Nat) : Prop := 2 ^ 52 ≤ mantissa ∧ mantissa < 2 ^ 53

theorem FillsMantissa.pos {mantissa : Nat} (fills : FillsMantissa mantissa) : 0 < mantissa := by
  have low := fills.1
  omega

theorem log2_mul_two_pow {value : Nat} (nonzero : value ≠ 0) (shift : Nat) :
    (value * 2 ^ shift).log2 = value.log2 + shift := by
  obtain ⟨low, high⟩ := (Nat.log2_eq_iff nonzero).1 rfl
  rw [Nat.log2_eq_iff (Nat.mul_ne_zero nonzero (Nat.two_pow_pos shift).ne')]
  constructor
  · rw [Nat.pow_add]
    exact Nat.mul_le_mul_right _ low
  · rw [Nat.add_right_comm, Nat.pow_add]
    exact Nat.mul_lt_mul_of_pos_right high (Nat.two_pow_pos shift)

theorem fillsMantissa_iff {mantissa : Nat} (nonzero : mantissa ≠ 0) :
    FillsMantissa mantissa ↔ mantissa.log2 = 52 :=
  (Nat.log2_eq_iff nonzero).symm

theorem FillsMantissa.log2 {mantissa : Nat} (fills : FillsMantissa mantissa) :
    mantissa.log2 = 52 :=
  (fillsMantissa_iff fills.pos.ne').1 fills

theorem FillsMantissa.log2_shift {mantissa : Nat} (fills : FillsMantissa mantissa) (shift : Nat) :
    (mantissa * 2 ^ shift).log2 = 52 + shift := by
  rw [log2_mul_two_pow fills.pos.ne', fills.log2]

/-- A mantissa with nothing to round. -/
def unrounded (mantissa : Nat) : ExtendedMantissa := ⟨mantissa, false, false⟩

theorem shiftRight_mantissa (mantissa shift : Nat) :
    (unrounded mantissa >>> shift).mantissa = mantissa / 2 ^ shift := by
  induction shift with
  | zero => exact (Nat.div_one _).symm
  | succ shift ih =>
    change (unrounded mantissa >>> shift).mantissa / 2 = _
    rw [ih, Nat.div_div_eq_div_mul, Nat.pow_succ]

/-- Zeros shifted out leave nothing to round. -/
theorem shiftRight_exact (mantissa shift : Nat) :
    unrounded (mantissa * 2 ^ shift) >>> shift = unrounded mantissa := by
  induction shift generalizing mantissa with
  | zero => simp [unrounded, HShiftRight.hShiftRight, Nat.repeat]
  | succ shift ih =>
    have grouped : mantissa * 2 ^ (shift + 1) = mantissa * 2 * 2 ^ shift := by ring
    change ExtendedMantissa.shiftRightOne (unrounded (mantissa * 2 ^ (shift + 1)) >>> shift) = _
    rw [grouped, ih (mantissa * 2)]
    simp [unrounded, ExtendedMantissa.shiftRightOne]

theorem FillsMantissa.of_log2 {mantissa shift : Nat} (nonzero : mantissa ≠ 0)
    (width : mantissa.log2 = 52 + shift) :
    FillsMantissa (unrounded mantissa >>> shift).mantissa := by
  obtain ⟨low, high⟩ := (Nat.log2_eq_iff nonzero).1 width
  rw [Nat.pow_add] at low
  rw [Nat.add_right_comm, Nat.pow_add] at high
  rw [shiftRight_mantissa]
  exact ⟨(Nat.le_div_iff_mul_le (Nat.two_pow_pos shift)).2 low,
    (Nat.div_lt_iff_lt_mul (Nat.two_pow_pos shift)).2 high⟩

theorem roundedMantissa_bounds (extended : ExtendedMantissa) :
    extended.mantissa ≤ extended.roundedMantissa ∧
      extended.roundedMantissa ≤ extended.mantissa + 1 := by
  obtain ⟨mantissa, roundBit, stickyBit⟩ := extended
  cases roundBit <;> cases stickyBit <;>
    simp only [ExtendedMantissa.roundedMantissa, ExtendedMantissa.accuracy,
      Accuracy.roundToNearestEven] <;> omega

/-! Rounding. -/

theorem targetExponent_binary64 (total : Int) :
    Format.binary64.targetExponent total = max (total - 53) (-1074) := rfl

theorem shiftToTargetExponent_of_log2 {mantissa shift : Nat} {exponent : Int}
    (width : mantissa.log2 = 52 + shift) (low : -1074 ≤ exponent) :
    shiftToTargetExponent Format.binary64 mantissa (exponent - shift) .exact =
      (unrounded mantissa >>> shift, exponent) := by
  have target : Format.binary64.targetExponent (totalExponent mantissa (exponent - shift)) =
      exponent := by
    rw [targetExponent_binary64, totalExponent, width]
    omega
  have amount : (exponent - (exponent - shift)).toNat = shift := by omega
  have arrived : exponent - shift + shift = exponent := by omega
  unfold shiftToTargetExponent shiftToExponent
  rw [target]
  dsimp only
  rw [amount, arrived]
  rfl

theorem shiftToTargetExponent_exact {mantissa : Nat} (fills : FillsMantissa mantissa) (shift : Nat)
    {exponent : Int} (low : -1074 ≤ exponent) :
    shiftToTargetExponent Format.binary64 (mantissa * 2 ^ shift) (exponent - shift) .exact =
      (unrounded mantissa, exponent) := by
  rw [shiftToTargetExponent_of_log2 (fills.log2_shift shift) low, shiftRight_exact]

theorem shiftToTargetExponent_fills {mantissa : Nat} (fills : FillsMantissa mantissa)
    {exponent : Int} (low : -1074 ≤ exponent) :
    shiftToTargetExponent Format.binary64 mantissa exponent .exact =
      (unrounded mantissa, exponent) := by
  have exact := shiftToTargetExponent_exact fills 0 low
  rwa [pow_zero, mul_one, Nat.cast_zero, sub_zero] at exact

theorem roundWithAccuracy_of_shifts {mantissa rounded : Nat} {exponent middle final : Int}
    {extended : ExtendedMantissa}
    (first : shiftToTargetExponent Format.binary64 mantissa exponent .exact = (extended, middle))
    (second : shiftToTargetExponent Format.binary64 extended.roundedMantissa middle .exact =
      (unrounded rounded, final))
    (positive : 0 < rounded) :
    roundWithAccuracy Format.binary64 .positive mantissa exponent .exact =
      .finite .positive rounded final positive := by
  unfold roundWithAccuracy
  rw [first]
  dsimp only
  rw [second]
  exact dif_neg positive.ne'

/-- Rounding a number that fits the mantissa changes its form only. -/
theorem roundWithAccuracy_exact {mantissa : Nat} (fills : FillsMantissa mantissa) (shift : Nat)
    {exponent : Int} (low : -1074 ≤ exponent) :
    roundWithAccuracy Format.binary64 .positive (mantissa * 2 ^ shift) (exponent - shift) .exact =
      .finite .positive mantissa exponent fills.pos :=
  roundWithAccuracy_of_shifts (shiftToTargetExponent_exact fills shift low)
    (shiftToTargetExponent_fills fills low) fills.pos

/-- Rounding a number of any width does not take it below its leading bit. -/
theorem roundWithAccuracy_finite {mantissa shift : Nat} {exponent : Int} (nonzero : mantissa ≠ 0)
    (width : mantissa.log2 = 52 + shift) (low : -1074 ≤ exponent) :
    ∃ (rounded : Nat) (final : Int) (fills : FillsMantissa rounded), exponent ≤ final ∧
      roundWithAccuracy Format.binary64 .positive mantissa (exponent - shift) .exact =
        .finite .positive rounded final fills.pos := by
  have first := shiftToTargetExponent_of_log2 width low
  have floor := FillsMantissa.of_log2 nonzero width
  obtain ⟨atLeast, atMost⟩ := roundedMantissa_bounds (unrounded mantissa >>> shift)
  by_cases carry : (unrounded mantissa >>> shift).roundedMantissa < 2 ^ 53
  · have fills : FillsMantissa (unrounded mantissa >>> shift).roundedMantissa :=
      ⟨floor.1.trans atLeast, carry⟩
    exact ⟨_, exponent, fills, le_rfl,
      roundWithAccuracy_of_shifts first (shiftToTargetExponent_fills fills low) fills.pos⟩
  · have full : (unrounded mantissa >>> shift).roundedMantissa = 2 ^ 52 * 2 ^ 1 := by
      have below := floor.2
      omega
    have fills : FillsMantissa (2 ^ 52) := ⟨by decide, by decide⟩
    have second := shiftToTargetExponent_exact fills 1 (by omega : -1074 ≤ exponent + 1)
    rw [Nat.cast_one, add_sub_cancel_right, ← full] at second
    exact ⟨2 ^ 52, exponent + 1, fills, by omega,
      roundWithAccuracy_of_shifts first second fills.pos⟩

/-! Packing. -/

theorem unpackSign_packComponents {format : Float.Model.Format} (sign : Sign)
    (exponent : BitVec format.exponentBits)
    (mantissa : BitVec format.mantissaBitsWithoutImplicit) :
    Sign.ofBitVec (unpackSign (packComponents format sign exponent mantissa)) = sign := by
  have same : unpackSign (packComponents format sign exponent mantissa) = sign.toBitVec := by
    ext place inside
    have first : place = 0 := by omega
    subst first
    change (BitVec.cast _ (BitVec.extractLsb _ _ (sign.toBitVec ++ exponent ++ mantissa)))[0] = _
    simp [BitVec.getLsbD_append, BitVec.getElem_append]
  rw [same]
  cases sign <;> rfl

theorem implicitBit_append {mantissa : Nat} (fills : FillsMantissa mantissa) :
    (1#1 ++ BitVec.ofNat 52 mantissa).toNat = mantissa := by
  rw [BitVec.toNat_append, ← Nat.shiftLeft_add_eq_or_of_lt (BitVec.isLt _), BitVec.toNat_ofNat]
  have low := fills.1
  have high := fills.2
  simp only [BitVec.toNat_ofNat, Nat.shiftLeft_eq]
  omega

/-- Finite numbers of equal parts are equal, however their mantissas are known to be positive. -/
theorem finite_congr {sign otherSign : Sign} {mantissa otherMantissa : Nat}
    {exponent otherExponent : Int} (positive : 0 < mantissa) (otherPositive : 0 < otherMantissa)
    (signs : sign = otherSign) (mantissas : mantissa = otherMantissa)
    (exponents : exponent = otherExponent) :
    UnpackedFloat.finite sign mantissa exponent positive =
      .finite otherSign otherMantissa otherExponent otherPositive := by
  subst signs mantissas exponents
  rfl

theorem unpack_packComponents {biased : Nat} {mantissa : BitVec 52} (low : 0 < biased)
    (high : biased < 2047) (positive : 0 < (1#1 ++ mantissa).toNat) :
    UnpackedFloat.unpack Format.binary64
        (packComponents Format.binary64 .positive (BitVec.ofNat 11 biased) mantissa) =
      .finite .positive (1#1 ++ mantissa).toNat (biased - 1075) positive := by
  have value : (unpackExponent (packComponents Format.binary64 .positive
      (BitVec.ofNat 11 biased) mantissa)).toNat = biased := by
    rw [unpackExponent_packComponents]
    exact Nat.mod_eq_of_lt (high.trans (by decide : 2047 < 2 ^ 11))
  unfold UnpackedFloat.unpack
  dsimp only
  rw [if_neg, if_neg]
  · apply finite_congr
    · exact unpackSign_packComponents _ _ _
    · rw [unpackMantissa_packComponents]
    · rw [value]
      rfl
  · intro empty
    rw [empty] at value
    exact low.ne value
  · intro full
    rw [full] at value
    exact high.ne' value

theorem unpack_pack_finite {mantissa : Nat} {exponent : Int} (fills : FillsMantissa mantissa)
    (low : -1074 ≤ exponent) (high : exponent ≤ 971) :
    (Float.Model.pack (.finite .positive mantissa exponent fills.pos)).unpack =
      .finite .positive mantissa exponent fills.pos := by
  have biased : (exponent + 1023 + 52).toNat < 2047 ∧ 0 < (exponent + 1023 + 52).toNat := by
    omega
  have whole := implicitBit_append fills
  have unpacked := unpack_packComponents biased.2 biased.1 (whole.symm ▸ fills.pos)
  have packed : UnpackedFloat.pack Format.binary64
      (.finite .positive mantissa exponent fills.pos) =
      packComponents Format.binary64 .positive (BitVec.ofNat 11 (exponent + 1023 + 52).toNat)
        (BitVec.ofNat 52 mantissa) := by
    unfold UnpackedFloat.pack
    dsimp only
    rw [if_neg, if_pos]
    · rfl
    · rw [fills.log2]
      rfl
    · change ¬ 2048 ≤ (exponent + 1023 + 52).toNat + 1
      omega
  change UnpackedFloat.unpack Format.binary64 (UnpackedFloat.pack Format.binary64 _) = _
  rw [packed, unpacked]
  congr 1
  omega

theorem unpack_pack_overflow {mantissa : Nat} {exponent : Int} (positive : 0 < mantissa)
    (high : 971 < exponent) :
    (Float.Model.pack (.finite .positive mantissa exponent positive)).unpack =
      .infinity .positive := by
  have packed : UnpackedFloat.pack Format.binary64 (.finite .positive mantissa exponent positive) =
      packedInfinity Format.binary64 .positive := by
    unfold UnpackedFloat.pack
    dsimp only
    rw [if_pos]
    change 2048 ≤ (exponent + 1023 + 52).toNat + 1
    omega
  change UnpackedFloat.unpack Format.binary64 (UnpackedFloat.pack Format.binary64 _) = _
  rw [packed]
  rfl

/-! Conversion to 32 bits. -/

def greatestInt32 : Nat := 2 ^ 31 - 1

theorem ofIntClamp_natCast (value : Nat) :
    (Int32.ofIntClamp value).toInt = (min value greatestInt32 : Nat) := by
  have least : Int32.minValue.toInt = -2147483648 := by decide
  have greatest : Int32.maxValue.toInt = 2147483647 := by decide
  unfold Int32.ofIntClamp greatestInt32
  rw [dif_pos (by omega)]
  split
  · rw [Int32.toInt_ofIntLE]
    omega
  · omega

/-- The whole part of a positive double. -/
theorem toInt_finite {mantissa : Nat} {exponent least greatest : Int} (positive : 0 < mantissa) :
    UnpackedFloat.toInt least greatest (.finite .positive mantissa exponent positive) =
      (mantissa * 2 ^ exponent.toNat / 2 ^ (-exponent).toNat : Nat) := by
  have left : (exponent - 0).toNat = exponent.toNat := by omega
  have right : (0 - (exponent - (exponent.toNat : Int))).toNat = (-exponent).toNat := by omega
  unfold UnpackedFloat.toInt roundToInt decreaseExponent
  dsimp only
  unfold shiftToExponent
  dsimp only
  rw [left, right, Nat.shiftLeft_eq]
  exact congrArg Nat.cast (shiftRight_mantissa _ _)

theorem greatestInt32_le_whole {mantissa : Nat} {exponent : Int} (fills : FillsMantissa mantissa)
    (noFraction : 0 ≤ exponent) :
    greatestInt32 ≤ mantissa * 2 ^ exponent.toNat / 2 ^ (-exponent).toNat := by
  have none : (-exponent).toNat = 0 := by omega
  rw [none, pow_zero, Nat.div_one]
  calc greatestInt32 ≤ mantissa := (by decide : greatestInt32 ≤ 2 ^ 52).trans fills.1
    _ ≤ mantissa * 2 ^ exponent.toNat := Nat.le_mul_of_pos_right _ (Nat.two_pow_pos _)

theorem toInt32_pack_finite {mantissa : Nat} {exponent : Int} (fills : FillsMantissa mantissa)
    (low : -1074 ≤ exponent) :
    (Float.Model.pack (.finite .positive mantissa exponent fills.pos)).toInt32.toInt =
      (min (mantissa * 2 ^ exponent.toNat / 2 ^ (-exponent).toNat) greatestInt32 : Nat) := by
  change (Int32.ofIntClamp (UnpackedFloat.toInt _ _ (Float.Model.unpack _))).toInt = _
  by_cases high : exponent ≤ 971
  · rw [unpack_pack_finite fills low high, toInt_finite fills.pos, ofIntClamp_natCast]
  · have beyond := greatestInt32_le_whole fills (by omega : 0 ≤ exponent)
    rw [unpack_pack_overflow fills.pos (by omega), Nat.min_eq_right beyond]
    rfl

/-! From digits to 32 bits. -/

/-- Scaled to fill the mantissa. -/
def widened (value : Nat) : Nat := value * 2 ^ (52 - value.log2)

theorem widened_fills {value : Nat} (nonzero : value ≠ 0) (small : value < 2 ^ 53) :
    FillsMantissa (widened value) := by
  have short : value.log2 < 53 := (Nat.log2_lt nonzero).2 small
  have positive : widened value ≠ 0 := Nat.mul_ne_zero nonzero (Nat.two_pow_pos _).ne'
  rw [fillsMantissa_iff positive, widened, log2_mul_two_pow nonzero]
  omega

theorem ofNat_small {value : Nat} (nonzero : value ≠ 0) (small : value < 2 ^ 53) :
    UnpackedFloat.ofNat Format.binary64 value =
      .finite .positive (widened value) (-(52 - value.log2 : Nat))
        (widened_fills nonzero small).pos := by
  have short : value.log2 < 53 := (Nat.log2_lt nonzero).2 small
  have target : Format.binary64.targetExponent (totalExponent value 0) =
      -(52 - value.log2 : Nat) := by
    rw [targetExponent_binary64, totalExponent]
    omega
  have sign : compare (value : Int) 0 = .gt := by
    rw [compare_gt_iff_gt]
    omega
  have amount : (0 - -((52 - value.log2 : Nat) : Int)).toNat = 52 - value.log2 := by omega
  have exact := roundWithAccuracy_exact (widened_fills nonzero small) 0
    (by omega : -1074 ≤ -((52 - value.log2 : Nat) : Int))
  rw [pow_zero, mul_one, Nat.cast_zero, sub_zero] at exact
  unfold UnpackedFloat.ofNat UnpackedFloat.ofInt UnpackedFloat.normalize
  rw [sign]
  dsimp only
  unfold UnpackedFloat.round
  rw [Int.toNat_natCast, target]
  unfold decreaseExponent
  dsimp only
  rw [amount, Nat.shiftLeft_eq, zero_sub]
  exact exact

theorem unpack_one :
    (Float.Model.ofBits 0x3FF0000000000000).unpack =
      .finite .positive (2 ^ 52) (-52) (by decide) := rfl

/-- A number below 2^53 times one, as digits without a point are read. -/
theorem toInt32_small {value : Nat} (small : value < 2 ^ 53) :
    (value.toUInt64.toFloat * Float.ofBits 0x3FF0000000000000).toModel.toInt32.toInt =
      (min value greatestInt32 : Nat) := by
  by_cases zero : value = 0
  · subst zero
    rfl
  · have kept : value.toUInt64.toNat = value := Nat.mod_eq_of_lt (by omega)
    have fills := widened_fills zero small
    have converted : (Float.Model.ofUInt64 value.toUInt64).unpack =
        .finite .positive (widened value) (-(52 - value.log2 : Nat)) fills.pos := by
      change (Float.Model.pack (UnpackedFloat.ofNat _ value.toUInt64.toNat)).unpack = _
      rw [kept, ofNat_small zero small]
      exact unpack_pack_finite fills (by omega) (by omega)
    have product := roundWithAccuracy_exact fills 52
      (by omega : -1074 ≤ -((52 - value.log2 : Nat) : Int))
    change (Float.Model.pack (UnpackedFloat.mul _ (Float.Model.ofUInt64 _).unpack
      (Float.Model.ofBits _).unpack)).toInt32.toInt = _
    rw [converted, unpack_one]
    change (Float.Model.pack (roundWithAccuracy _ .positive (widened value * 2 ^ 52)
      (-((52 - value.log2 : Nat) : Int) - (52 : Nat)) .exact)).toInt32.toInt = _
    rw [product, toInt32_pack_finite fills (by omega)]
    have noWhole : (-((52 - value.log2 : Nat) : Int)).toNat = 0 := by omega
    have fraction : (-(-((52 - value.log2 : Nat) : Int))).toNat = 52 - value.log2 := by omega
    rw [noWhole, fraction, pow_zero, mul_one, widened, Nat.mul_div_cancel _ (Nat.two_pow_pos _)]

/-- A number from 2^53 on, which may be rounded. -/
theorem toInt32_large {value : Nat} (large : 2 ^ 53 ≤ value) :
    (Float.Model.ofScientific value 0).toInt32.toInt = (min value greatestInt32 : Nat) := by
  have nonzero : value ≠ 0 := by omega
  have long : 53 ≤ value.log2 := (Nat.le_log2 nonzero).2 large
  have scaled : value * 2 ^ 53 ≠ 0 := Nat.mul_ne_zero nonzero (by decide)
  have width : (value * 2 ^ 53).log2 = 52 + (value.log2 + 1) := by
    rw [log2_mul_two_pow nonzero]
    omega
  obtain ⟨rounded, final, fills, atLeast, same⟩ := roundWithAccuracy_finite scaled width
    (by omega : -1074 ≤ (value.log2 : Int) - 52)
  have start : (value.log2 : Int) - 52 - (value.log2 + 1 : Nat) = -53 := by omega
  rw [start] at same
  have unfolded : UnpackedFloat.ofScientific Format.binary64 value 0 =
      .finite .positive rounded final fills.pos := by
    have notTiny : ¬ (0 : Int) < -((2 ^ 11 : Int) + value.log2) := by omega
    unfold UnpackedFloat.ofScientific
    rw [dif_neg nonzero, if_neg (by decide), if_neg notTiny, if_pos (le_refl 0)]
    change roundWithAccuracy Format.binary64 .positive ((value <<< 53) * 1) (-53) .exact = _
    rw [Nat.shiftLeft_eq, mul_one, same]
  change (Float.Model.pack (UnpackedFloat.ofScientific Format.binary64 value 0)).toInt32.toInt = _
  have beyond : greatestInt32 ≤ value := (by decide : greatestInt32 ≤ 2 ^ 53).trans large
  rw [unfolded, toInt32_pack_finite fills (by omega), Nat.min_eq_right beyond,
    Nat.min_eq_right (greatestInt32_le_whole fills (by omega))]

theorem toInt32_ofScientific (value : Nat) :
    (Float.ofScientific value false 0).toModel.toInt32.toInt = (min value greatestInt32 : Nat) := by
  unfold Float.ofScientific
  by_cases small : value < 2 ^ 53
  · rw [dif_pos ⟨small, by decide⟩]
    exact toInt32_small small
  · rw [dif_neg fun both => small both.1]
    exact toInt32_large (Nat.le_of_not_lt small)

/-- Digits read as a number and held within 32 bits. -/
theorem toInt32_decimalValue (digits : List Char) :
    (decimalValue digits []).toModel.toInt32.toInt =
      (min (natOfDigits digits) greatestInt32 : Nat) := by
  unfold decimalValue scaledValue
  rw [List.append_nil]
  exact toInt32_ofScientific (natOfDigits digits)

end LootSieve.Text
