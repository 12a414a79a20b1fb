import Retrieval.Proofs.Json.Number
import Retrieval.Proofs.Number.Magnitude

/-!
# Single-precision numbers in JSON

A finite number has a numeral, and the numeral is read as a number: neither its
digits nor its exponent lead out of double precision.  Every other number is
written as null, which is no number.
-/

namespace Retrieval

open Float.Model (Format UnpackedFloat)

/-! ## Numerals within double precision -/

namespace Numeral

theorem length_absorb_le (significand : Nat) (digits : List Char) :
    (absorb significand digits).2.length ≤ digits.length := by
  induction digits generalizing significand with
  | nil => exact Nat.le_refl 0
  | cons digit rest ih =>
      rw [absorb]
      split
      · exact Nat.le_succ_of_le (ih _)
      · exact Nat.le_refl _

/-- Powers of ten beyond every single-precision number are far below the largest double. -/
theorem below_powerOfTen :
    ∀ exponent < 41, Below 140 (powerOfTen exponent).toModel.unpack := by
  decide +kernel

theorem exists_scale? {significand : Nat} {exponent : Int} (low : exponent < 41) :
    ∃ value, scale? significand exponent = some value := by
  unfold scale?
  dsimp only
  by_cases below : exponent < 0
  · rw [if_pos below]
    exact ⟨_, rfl⟩
  · have within : exponent.toNat ≤ powerLimit := by
      rw [powerLimit]
      omega
    have finite : ((UInt64.ofNat significand).toFloat * powerOfTen exponent.toNat).isInf =
        false :=
      isInf_mul (below_toFloat _) (below_powerOfTen _ (by omega)) (by decide) (by decide)
    rw [if_neg below, if_pos within, finite]
    exact ⟨_, rfl⟩

/-- The places that a numeral may reach before the point. -/
def reach (numeral : Numeral) : Nat :=
  match numeral.exponent with
  | some (false, digits) => numeral.whole.length + Digits.number digits
  | _ => numeral.whole.length

theorem exists_magnitude? {numeral : Numeral} (within : numeral.reach ≤ 40) :
    ∃ value, numeral.magnitude? = some value := by
  unfold magnitude?
  have fewer := length_absorb_le 0 numeral.whole
  generalize absorb 0 numeral.whole = read at fewer
  obtain ⟨whole, dropped⟩ := read
  have less := length_absorb_le whole (numeral.fraction.getD [])
  dsimp only at fewer ⊢
  generalize absorb whole (numeral.fraction.getD []) = read at less
  obtain ⟨significand, unused⟩ := read
  dsimp only at less ⊢
  have places : (dropped.length : Int) -
      ((numeral.fraction.getD []).length - unused.length) ≤ numeral.whole.length := by omega
  unfold reach at within
  cases power : numeral.exponent with
  | none =>
      rw [power] at within
      dsimp only at within
      exact exists_scale? (by omega)
  | some written =>
      obtain ⟨lowers, digits⟩ := written
      rw [power] at within
      cases lowers with
      | true =>
          dsimp only at within ⊢
          split
          · rw [if_pos (.inr rfl)]
            exact ⟨0, rfl⟩
          · exact exists_scale? (by omega)
      | false =>
          dsimp only at within ⊢
          have near : ¬ UInt32.size / 2 ≤ Digits.number digits := by
            have size : UInt32.size / 2 = 2147483648 := rfl
            omega
          rw [if_neg near, if_neg Bool.false_ne_true]
          exact exists_scale? (by omega)

/-- A numeral with a fraction or an exponent is a real number, if it is one in reach. -/
theorem exists_value? {numeral : Numeral} (within : numeral.reach ≤ 40)
    (real : numeral.fraction.isSome ∨ numeral.exponent.isSome) :
    ∃ number, numeral.value? = some number := by
  obtain ⟨value, found⟩ := exists_magnitude? within
  refine ⟨.real (signed numeral.negative value), ?_⟩
  unfold value?
  rw [found]
  cases fraction : numeral.fraction with
  | some digits => rfl
  | none =>
      cases exponent : numeral.exponent with
      | some written => rfl
      | none =>
          rw [fraction, exponent] at real
          rcases real with absent | absent <;> cases absent

/-- Every decimal that is not too large is read from the numeral that is written for it. -/
theorem exists_value?_ofDecimal (negative : Bool) {decimal : Decimal}
    (within : decimal.point ≤ 40) :
    ∃ number, (ofDecimal singleStyle negative decimal).value? = some number := by
  have counted : Decimal.digitCount decimal.digits = (Nat.toDigits 10 decimal.digits).length := rfl
  rw [Decimal.point, counted] at within
  have filled : 0 < (Nat.toDigits 10 decimal.digits).length := Nat.length_toDigits_pos
  have widest : singleStyle.widest = 13 := rfl
  unfold ofDecimal
  dsimp only
  generalize Nat.toDigits 10 decimal.digits = digits at within filled
  rw [widest]
  split
  · refine exists_value? ?_ (.inl rfl)
    simp only [reach, List.length_append, List.length_replicate]
    omega
  · split
    · refine exists_value? ?_ (.inl rfl)
      simp only [reach, List.length_take]
      omega
    · split
      · refine exists_value? ?_ (.inl rfl)
        change 1 ≤ 40
        decide
      · refine exists_value? ?_ (.inr rfl)
        rw [reach]
        dsimp only
        rw [List.length_take]
        cases lowers : decide ((digits.length : Int) + decimal.exponent - 1 < 0) with
        | true =>
            dsimp only
            omega
        | false =>
            have raises := of_decide_eq_false lowers
            dsimp only
            rw [Digits.number_toDigits]
            omega

end Numeral

/-! ## Finite numbers -/

namespace Parts

def isFinite : Parts → Bool
  | .notANumber => false
  | .infinite _ => false
  | .zero _ => true
  | .finite _ _ => true

theorem toNat_unpackExponent (bits : BitVec Format.binary32.numBits) :
    (UnpackedFloat.unpackExponent bits).toNat = bits.toNat / 2 ^ 23 % 2 ^ 8 := by
  rw [UnpackedFloat.unpackExponent, BitVec.toNat_cast, BitVec.extractLsb_toNat,
    Nat.shiftRight_eq_div_pow]
  rfl

/-- A number is finite unless its exponent field is full. -/
theorem isFinite_single_iff (value : Float32) :
    value.isFinite = true ↔ value.toBits.toNat / 2 ^ 23 % 2 ^ 8 ≠ 2 ^ 8 - 1 := by
  let bits : BitVec Format.binary32.numBits := value.toModel.toBits.toBitVec
  have full : UnpackedFloat.unpackExponent bits = -1#8 ↔
      value.toBits.toNat / 2 ^ 23 % 2 ^ 8 = 2 ^ 8 - 1 := by
    rw [← BitVec.toNat_inj, toNat_unpackExponent]
    rfl
  rw [ne_eq, ← full]
  change (UnpackedFloat.unpack .binary32 bits).isFinite = true ↔ _
  unfold UnpackedFloat.unpack
  dsimp only
  by_cases infinite : UnpackedFloat.unpackExponent bits = -1#8
  · rw [if_pos infinite]
    refine iff_of_false ?_ (not_not.mpr infinite)
    split <;> exact Bool.false_ne_true
  · rw [if_neg infinite]
    refine iff_of_true ?_ infinite
    split
    · split <;> rfl
    · rfl

theorem isFinite_ofSingle (value : Float32) : (ofSingle value).isFinite = value.isFinite := by
  unfold ofSingle ofBits
  dsimp only
  by_cases full : value.toBits.toNat / Nat.pow 2 23 % Nat.pow 2 8 = Nat.pow 2 8 - 1
  · have infinite : value.isFinite = false := by
      rw [← Bool.not_eq_true, isFinite_single_iff]
      exact not_not.mpr full
    rw [infinite, if_pos full]
    split <;> rfl
  · rw [(isFinite_single_iff value).mpr full, if_neg full]
    split
    · split <;> rfl
    · rfl

/-- A finite single-precision number has thirty-nine places before the point at most. -/
theorem point_of_single {value : Float32} {negative : Bool} {magnitude : Binary}
    (finite : ofSingle value = .finite negative magnitude) :
    (magnitude.shortest .toEven).point ≤ 40 := by
  obtain ⟨positive, small⟩ := mantissa_of_finite finite
  have low := exponent_of_single finite
  have unit : magnitude.unit ≤ 2 ^ 102 := Nat.pow_le_pow_right (by decide) (by omega)
  have large : (4 * magnitude.mantissa + 2) * magnitude.unit ≤ 10 ^ 39 := by
    calc (4 * magnitude.mantissa + 2) * magnitude.unit
        ≤ 2 ^ 26 * 2 ^ 102 := Nat.mul_le_mul (by omega) unit
      _ ≤ 10 ^ 39 := by decide
  exact Binary.point_shortest_le .toEven positive (by omega) large

end Parts

namespace Json

/-- A finite number is read from its numeral as a number, and what is not finite has none. -/
theorem isSome_single?_ofSingle (value : Float32) :
    (ofSingle value).single?.isSome = value.isFinite := by
  have finite := Parts.isFinite_ofSingle value
  unfold ofSingle ofParts
  cases taken : Parts.ofSingle value with
  | notANumber =>
      rw [taken] at finite
      exact finite
  | infinite negative =>
      rw [taken] at finite
      exact finite
  | zero negative =>
      rw [taken] at finite
      have zero : Numeral.reach ⟨negative, ['0'], some ['0'], none⟩ ≤ 40 := by
        change 1 ≤ 40
        decide
      obtain ⟨number, read⟩ := Numeral.exists_value? zero (.inl rfl)
      rw [← finite]
      simp [Numeral.ofParts?, single?, number?, read, Parts.isFinite]
  | finite negative magnitude =>
      rw [taken] at finite
      obtain ⟨number, read⟩ :=
        Numeral.exists_value?_ofDecimal negative (Parts.point_of_single taken)
      rw [← finite]
      simp [Numeral.ofParts?, single?, number?, read, Parts.isFinite]

end Json

end Retrieval
