import Mathlib

/-!
# The magnitude of double-precision numbers

A number below a power of two stays below the next one when it is rounded, and
a product below the product of two such powers.  Numbers that are far below the
largest one are packed as finite numbers, so their product is not infinite.
-/

namespace Retrieval

open Float.Model (Format UnpackedFloat totalExponent)
open Float.Model.UnpackedFloat (Sign Accuracy ExtendedMantissa)

/-- A finite number that is below a power of two in magnitude. -/
def Below (top : Int) : UnpackedFloat → Prop
  | .zero _ => True
  | .finite _ mantissa exponent _ => mantissa < 2 ^ (top - exponent).toNat
  | .infinity _ => False
  | .notANumber => False

instance (top : Int) (value : UnpackedFloat) : Decidable (Below top value) :=
  match value with
  | .zero _ => .isTrue trivial
  | .finite _ mantissa exponent _ =>
      inferInstanceAs (Decidable (mantissa < 2 ^ (top - exponent).toNat))
  | .infinity _ => .isFalse id
  | .notANumber => .isFalse id

theorem Below.mono {top other : Int} {value : UnpackedFloat} (below : Below top value)
    (raised : top ≤ other) : Below other value := by
  cases value with
  | notANumber => exact below
  | infinity => exact below
  | zero => trivial
  | finite sign mantissa exponent =>
      have more : (top - exponent).toNat ≤ (other - exponent).toNat := by omega
      exact Nat.lt_of_lt_of_le below (Nat.pow_le_pow_right (by decide) more)

/-! ## Rounding -/

section Rounding

variable {format : Format} {top exponent : Int} {mantissa : Nat}

theorem exponent_lt_of_small (filled : 0 < mantissa)
    (small : mantissa < 2 ^ (top - exponent).toNat) : exponent < top := by
  refine Int.lt_of_not_ge fun beyond => ?_
  rw [Int.toNat_of_nonpos (by omega), Nat.pow_zero] at small
  omega

theorem mantissa_shiftRight (extended : ExtendedMantissa) (places : Nat) :
    (extended >>> places).mantissa = extended.mantissa / 2 ^ places := by
  induction places with
  | zero => exact (Nat.div_one _).symm
  | succ places ih =>
      have step : (extended >>> (places + 1)).mantissa = (extended >>> places).mantissa / 2 := rfl
      rw [step, ih, Nat.div_div_eq_div_mul, Nat.pow_succ]

theorem mantissa_ofMantissaAndAccuracy (mantissa : Nat) (accuracy : Accuracy) :
    (ExtendedMantissa.ofMantissaAndAccuracy mantissa accuracy).mantissa = mantissa := by
  rcases accuracy with _ | ⟨_ | _ | _⟩ <;> rfl

theorem roundedMantissa_le (extended : ExtendedMantissa) :
    extended.roundedMantissa ≤ extended.mantissa + 1 := by
  obtain ⟨mantissa, roundBit, stickyBit⟩ := extended
  cases roundBit <;> cases stickyBit <;>
    simp only [ExtendedMantissa.roundedMantissa, ExtendedMantissa.accuracy,
      Accuracy.roundToNearestEven] <;>
    omega

theorem targetExponent_le (floor : format.minExponent ≤ top) (low : exponent ≤ top)
    (small : mantissa < 2 ^ (top - exponent).toNat) :
    format.targetExponent (totalExponent mantissa exponent) ≤ top := by
  have bits : mantissa.log2 ≤ (top - exponent).toNat := by
    by_cases zero : mantissa = 0
    · rw [zero, Nat.log2_zero]
      exact Nat.zero_le _
    · exact Nat.le_of_lt ((Nat.log2_lt zero).mpr small)
  have places : (1 : Int) ≤ format.mantissaBits := by
    rw [Format.mantissaBits]
    omega
  rw [Format.targetExponent, totalExponent]
  omega

/-- Digits that are shifted out leave a number below the power of two that it was below. -/
theorem small_of_shift (floor : format.minExponent ≤ top) (low : exponent ≤ top)
    (small : mantissa < 2 ^ (top - exponent).toNat) (accuracy : Accuracy) :
    (UnpackedFloat.shiftToTargetExponent format mantissa exponent accuracy).2 ≤ top ∧
    (UnpackedFloat.shiftToTargetExponent format mantissa exponent accuracy).1.mantissa <
      2 ^ (top -
        (UnpackedFloat.shiftToTargetExponent format mantissa exponent accuracy).2).toNat := by
  have target := targetExponent_le floor low small
  rw [UnpackedFloat.shiftToTargetExponent, UnpackedFloat.shiftToExponent]
  dsimp only
  generalize format.targetExponent (totalExponent mantissa exponent) = goal at target
  rw [mantissa_shiftRight, mantissa_ofMantissaAndAccuracy]
  let places := (goal - exponent).toNat
  have within : exponent + places ≤ top := by omega
  have split : (top - exponent).toNat = places + (top - (exponent + places)).toNat := by omega
  refine ⟨within, Nat.div_lt_of_lt_mul ?_⟩
  rwa [← Nat.pow_add, ← split]

theorem below_roundWithAccuracy (floor : format.minExponent ≤ top) (low : exponent ≤ top)
    (small : mantissa < 2 ^ (top - exponent).toNat) (sign : Sign) (accuracy : Accuracy) :
    Below (top + 1)
      (UnpackedFloat.roundWithAccuracy format sign mantissa exponent accuracy) := by
  obtain ⟨firstLow, firstSmall⟩ := small_of_shift floor low small accuracy
  unfold UnpackedFloat.roundWithAccuracy
  generalize UnpackedFloat.shiftToTargetExponent format mantissa exponent accuracy = first
    at firstLow firstSmall
  obtain ⟨extended, shifted⟩ := first
  dsimp only at firstLow firstSmall ⊢
  have double : 2 ^ (top + 1 - shifted).toNat = 2 ^ (top - shifted).toNat * 2 := by
    rw [← Nat.pow_succ]
    congr 1
    omega
  have rounded : extended.roundedMantissa < 2 ^ (top + 1 - shifted).toNat := by
    have raised := roundedMantissa_le extended
    omega
  have raisedFloor : format.minExponent ≤ top + 1 := by omega
  obtain ⟨-, lastSmall⟩ := small_of_shift raisedFloor (by omega) rounded .exact
  split
  · trivial
  · exact lastSmall

theorem below_round (floor : format.minExponent ≤ top) (low : exponent ≤ top)
    (small : mantissa < 2 ^ (top - exponent).toNat) (sign : Sign) :
    Below (top + 1) (UnpackedFloat.round format sign mantissa exponent) := by
  unfold UnpackedFloat.round UnpackedFloat.decreaseExponent
  dsimp only
  generalize (exponent - format.targetExponent (totalExponent mantissa exponent)).toNat = places
  have wider : (top - (exponent - places)).toNat = (top - exponent).toNat + places := by omega
  refine below_roundWithAccuracy floor (by omega) ?_ sign .exact
  rw [wider, Nat.shiftLeft_eq, Nat.pow_add]
  exact Nat.mul_lt_mul_of_pos_right small (Nat.two_pow_pos places)

/-- A natural number below a power of two is converted to a number below the next one. -/
theorem below_ofNat {number bits : Nat} (small : number < 2 ^ bits)
    (floor : format.minExponent ≤ bits) :
    Below (bits + 1) (UnpackedFloat.ofNat format number) := by
  rw [UnpackedFloat.ofNat, UnpackedFloat.ofInt, UnpackedFloat.normalize]
  split
  · next negative =>
    rw [Int.compare_eq_lt] at negative
    omega
  · trivial
  · refine below_round floor (Int.natCast_nonneg bits) ?_ .positive
    simpa using small

theorem below_mul {first second : UnpackedFloat} {left right : Int} (inFirst : Below left first)
    (inSecond : Below right second) (floor : format.minExponent ≤ left + right) :
    Below (left + right + 1) (UnpackedFloat.mul format first second) := by
  cases first with
  | notANumber => exact inFirst.elim
  | infinity => exact inFirst.elim
  | zero =>
      cases second with
      | notANumber => exact inSecond.elim
      | infinity => exact inSecond.elim
      | zero => trivial
      | finite => trivial
  | finite sign mantissa exponent filled =>
      cases second with
      | notANumber => exact inSecond.elim
      | infinity => exact inSecond.elim
      | zero => trivial
      | finite otherSign other otherExponent otherFilled =>
          have low := exponent_lt_of_small filled inFirst
          have otherLow := exponent_lt_of_small otherFilled inSecond
          have sum : (left + right - (exponent + otherExponent)).toNat =
              (left - exponent).toNat + (right - otherExponent).toNat := by omega
          refine below_roundWithAccuracy floor (by omega) ?_ _ .exact
          rw [sum, Nat.pow_add]
          exact Nat.mul_lt_mul'' inFirst inSecond

end Rounding

/-! ## Packing -/

/-- What is unpacked from bits whose exponent field is not full is below the power of two that
the field tells. -/
theorem below_unpack {bits : BitVec Format.binary64.numBits}
    (finite : UnpackedFloat.unpackExponent bits ≠ -1#_) :
    Below ((UnpackedFloat.unpackExponent bits).toNat - 1022)
      (UnpackedFloat.unpack .binary64 bits) := by
  unfold UnpackedFloat.unpack
  dsimp only
  rw [if_neg finite]
  have bias : (Format.binary64.exponentBias : Int) +
      (Format.binary64.mantissaBitsWithoutImplicit : Int) = 1075 := rfl
  rw [bias]
  have field : (UnpackedFloat.unpackMantissa bits).toNat < 2 ^ 52 :=
    (UnpackedFloat.unpackMantissa bits).isLt
  split
  · split
    · trivial
    · have places : ((UnpackedFloat.unpackExponent bits).toNat - 1022 -
          ((UnpackedFloat.unpackExponent bits).toNat - 1075 + 1) : Int).toNat = 52 := by omega
      rw [Below, places]
      exact field
  · have places : ((UnpackedFloat.unpackExponent bits).toNat - 1022 -
        ((UnpackedFloat.unpackExponent bits).toNat - 1075) : Int).toNat = 53 := by omega
    rw [Below, places]
    exact (1#1 ++ UnpackedFloat.unpackMantissa bits).isLt

theorem below_unpack_packComponents (sign : Sign) {field : BitVec 11} (mantissa : BitVec 52)
    {top : Int} (finite : field ≠ -1#_) (low : (field.toNat : Int) - 1022 ≤ top) :
    Below top (UnpackedFloat.unpack .binary64
      (UnpackedFloat.packComponents .binary64 sign field mantissa)) := by
  have exponent : UnpackedFloat.unpackExponent
      (UnpackedFloat.packComponents .binary64 sign field mantissa) = field :=
    UnpackedFloat.unpackExponent_packComponents
  have below := below_unpack (exponent ▸ finite)
  rw [exponent] at below
  exact below.mono low

/-- A number that is not too large for double precision is packed as a finite one. -/
theorem below_unpack_pack {value : UnpackedFloat} {top : Int} (floor : 0 ≤ top)
    (high : top ≤ 960) (below : Below top value) :
    Below (top + 53) (UnpackedFloat.unpack .binary64 (UnpackedFloat.pack .binary64 value)) := by
  cases value with
  | notANumber => exact below.elim
  | infinity => exact below.elim
  | zero sign =>
      rw [UnpackedFloat.pack, UnpackedFloat.unpack_packedZero]
      trivial
  | finite sign mantissa exponent filled =>
      have low := exponent_lt_of_small filled below
      have bias : (Format.binary64.exponentBias : Int) = 1023 := rfl
      unfold UnpackedFloat.pack
      dsimp only
      rw [bias]
      have within : (exponent + 1023 + (52 : Nat)).toNat < 2 ^ 11 - 1 := by omega
      rw [if_neg (by omega)]
      split
      · refine below_unpack_packComponents sign _ ?_ ?_
        · intro full
          have value := congrArg BitVec.toNat full
          rw [BitVec.toNat_ofNat, Nat.mod_eq_of_lt (by omega)] at value
          have ones : (-1#11).toNat = 2 ^ 11 - 1 := rfl
          omega
        · rw [BitVec.toNat_ofNat, Nat.mod_eq_of_lt (by omega)]
          omega
      · refine below_unpack_packComponents sign _ (by decide) ?_
        rw [BitVec.toNat_ofNat]
        omega

/-! ## Products -/

theorem isInf_eq_false_of_below {value : UnpackedFloat} {top : Int} (below : Below top value) :
    value.isInf = false := by
  cases value with
  | infinity => exact below.elim
  | notANumber => rfl
  | zero => rfl
  | finite => rfl

theorem isInf_mul {first second : Float} {left right : Int}
    (inFirst : Below left first.toModel.unpack) (inSecond : Below right second.toModel.unpack)
    (floor : 0 ≤ left + right) (high : left + right < 960) : (first * second).isInf = false := by
  have lowest : Format.binary64.minExponent ≤ left + right := Int.le_trans (by decide) floor
  have product := below_mul inFirst inSecond lowest
  exact isInf_eq_false_of_below (below_unpack_pack (by omega) (by omega) product)

/-- A natural number of sixty-four bits is converted to a number of about that size. -/
theorem below_toFloat (number : UInt64) : Below 118 number.toFloat.toModel.unpack := by
  have small : number.toNat < 2 ^ 64 := number.toNat_lt
  exact below_unpack_pack (by decide) (by decide) (below_ofNat small (by decide))

end Retrieval
