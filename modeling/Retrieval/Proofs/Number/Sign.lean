import Mathlib

/-!
# The sign of single-precision numbers

Rounding and packing keep the sign of a number and never make one what is no
number.  So an operation on numbers gives a number except where its operands are
at odds: infinities that cancel, zero times infinity, zero by zero, infinity by
infinity, the root of what is below zero.
-/

namespace Retrieval

open Float.Model (Format UnpackedFloat)
open Float.Model.UnpackedFloat (Sign)

/-- The sign of a number; what is no number has none. -/
def signOf : UnpackedFloat → Option Sign
  | .notANumber => none
  | .infinity sign => some sign
  | .zero sign => some sign
  | .finite sign _ _ _ => some sign

theorem isNaN_eq_false_of_signOf {value : UnpackedFloat} (number : signOf value ≠ none) :
    value.isNaN = false := by
  cases value with
  | notANumber => exact absurd rfl number
  | infinity => rfl
  | zero => rfl
  | finite => rfl

/-! ## Packing -/

section Packing

variable {format : Format}

theorem signOf_unpack {bits : BitVec format.numBits}
    (number : UnpackedFloat.unpackExponent bits = -1#_ →
      UnpackedFloat.unpackMantissa bits = 0#_) :
    signOf (UnpackedFloat.unpack format bits) =
      some (Sign.ofBitVec (UnpackedFloat.unpackSign bits)) := by
  fun_cases UnpackedFloat.unpack with
  | case1 => rfl
  | case2 _ _ full part => exact absurd (number full) part
  | case3 => rfl
  | case4 => rfl
  | case5 => rfl

theorem signOf_unpack_packComponents (sign : Sign) {exponent : BitVec format.exponentBits}
    {mantissa : BitVec format.mantissaBitsWithoutImplicit}
    (number : exponent = -1#_ → mantissa = 0#_) :
    signOf (UnpackedFloat.unpack format
      (UnpackedFloat.packComponents format sign exponent mantissa)) = some sign := by
  rw [signOf_unpack, UnpackedFloat.unpackSign_packComponents, Sign.ofBitVec_toBitVec]
  rwa [UnpackedFloat.unpackExponent_packComponents, UnpackedFloat.unpackMantissa_packComponents]

theorem ofNat_ne_neg_one {width exponent : Nat} (below : ¬ 2 ^ width ≤ exponent + 1) :
    BitVec.ofNat width exponent ≠ -1#_ := by
  intro same
  have value := congrArg BitVec.toNat same
  rw [BitVec.toNat_ofNat, BitVec.neg_one_eq_allOnes, BitVec.toNat_allOnes,
    Nat.mod_eq_of_lt (by omega)] at value
  omega

variable (format)

theorem signOf_unpack_pack (value : UnpackedFloat) :
    signOf (UnpackedFloat.unpack format (UnpackedFloat.pack format value)) = signOf value := by
  fun_cases UnpackedFloat.pack with
  | case1 => rw [UnpackedFloat.unpack_packedNaN]
  | case2 sign => exact signOf_unpack_packComponents sign fun _ => rfl
  | case3 sign => exact signOf_unpack_packComponents sign fun _ => rfl
  | case4 sign => exact signOf_unpack_packComponents sign fun _ => rfl
  | case5 sign _ _ _ _ _ below =>
      exact signOf_unpack_packComponents sign fun full => absurd full (ofNat_ne_neg_one below)
  | case6 sign =>
      exact signOf_unpack_packComponents sign fun full =>
        absurd (BitVec.zero_eq_neg_one_iff.mp full) (Nat.ne_of_gt format.he)

end Packing

/-! ## Operations -/

section Operations

variable (format : Format) {first second : UnpackedFloat}

theorem signOf_roundWithAccuracy (sign : Sign) (mantissa : Nat) (exponent : Int)
    (accuracy : UnpackedFloat.Accuracy) :
    signOf (UnpackedFloat.roundWithAccuracy format sign mantissa exponent accuracy) =
      some sign := by
  fun_cases UnpackedFloat.roundWithAccuracy with
  | case1 => rfl
  | case2 => rfl

theorem signOf_round (sign : Sign) (mantissa : Nat) (exponent : Int) :
    signOf (UnpackedFloat.round format sign mantissa exponent) = some sign :=
  signOf_roundWithAccuracy ..

theorem signOf_normalize (mantissa exponent : Int) (zeroSign : Sign) :
    signOf (UnpackedFloat.normalize format mantissa exponent zeroSign) ≠ none := by
  fun_cases UnpackedFloat.normalize with
  | case1 =>
      rw [signOf_round]
      exact Option.some_ne_none _
  | case2 => exact Option.some_ne_none _
  | case3 =>
      rw [signOf_round]
      exact Option.some_ne_none _

theorem signOf_normalize_of_pos {mantissa : Int} (above : 0 < mantissa) (exponent : Int)
    (zeroSign : Sign) :
    signOf (UnpackedFloat.normalize format mantissa exponent zeroSign) = some .positive := by
  rw [UnpackedFloat.normalize, Int.compare_eq_gt.mpr above]
  exact signOf_round ..

theorem signOf_add (left : first.isFinite = true) (right : signOf second ≠ none) :
    signOf (UnpackedFloat.add format first second) ≠ none := by
  cases first with
  | notANumber => cases left
  | infinity => cases left
  | zero sign =>
      cases second with
      | notANumber => exact absurd rfl right
      | infinity => exact Option.some_ne_none _
      | zero other => cases sign <;> cases other <;> exact Option.some_ne_none _
      | finite => exact Option.some_ne_none _
  | finite =>
      cases second with
      | notANumber => exact absurd rfl right
      | infinity => exact Option.some_ne_none _
      | zero => exact Option.some_ne_none _
      | finite => exact signOf_normalize format _ _ _

theorem signOf_sub (left : first.isFinite = true) (right : second.isFinite = true) :
    signOf (UnpackedFloat.sub format first second) ≠ none := by
  cases first with
  | notANumber => cases left
  | infinity => cases left
  | zero sign =>
      cases second with
      | notANumber => cases right
      | infinity => cases right
      | zero other => cases sign <;> cases other <;> exact Option.some_ne_none _
      | finite => exact Option.some_ne_none _
  | finite =>
      cases second with
      | notANumber => cases right
      | infinity => cases right
      | zero => exact Option.some_ne_none _
      | finite => exact signOf_normalize format _ _ _

theorem signOf_div {sign : Sign} {mantissa : Nat} {exponent : Int} {filled : 0 < mantissa}
    (number : signOf second ≠ none) :
    signOf (UnpackedFloat.div format (.finite sign mantissa exponent filled) second) ≠ none := by
  cases second with
  | notANumber => exact absurd rfl number
  | infinity => exact Option.some_ne_none _
  | zero => exact Option.some_ne_none _
  | finite =>
      rw [UnpackedFloat.div, signOf_roundWithAccuracy]
      exact Option.some_ne_none _

end Operations

/-- A zero of either sign, or a number above zero. -/
inductive AtLeastZero : UnpackedFloat → Prop
  | zero (sign : Sign) : AtLeastZero (.zero sign)
  | finite (mantissa : Nat) (exponent : Int) (filled : 0 < mantissa) :
      AtLeastZero (.finite .positive mantissa exponent filled)
  | infinity : AtLeastZero (.infinity .positive)

namespace AtLeastZero

variable (format : Format) {value first second : UnpackedFloat}

theorem of_signOf (positive : signOf value = some .positive) : AtLeastZero value := by
  cases value with
  | notANumber => cases positive
  | infinity =>
      cases positive
      exact .infinity
  | zero sign => exact .zero sign
  | finite =>
      cases positive
      exact .finite ..

theorem unpack_pack (raised : AtLeastZero value) :
    AtLeastZero (UnpackedFloat.unpack format (UnpackedFloat.pack format value)) := by
  cases raised with
  | zero sign =>
      rw [UnpackedFloat.pack, UnpackedFloat.unpack_packedZero]
      exact .zero sign
  | finite => exact of_signOf (signOf_unpack_pack format _)
  | infinity => exact of_signOf (signOf_unpack_pack format _)

theorem shiftLeft_pos {mantissa : Nat} (filled : 0 < mantissa) (places : Nat) :
    0 < ((mantissa <<< places : Nat) : Int) := by
  rw [Nat.shiftLeft_eq]
  exact Int.natCast_pos.mpr (Nat.mul_pos filled (Nat.two_pow_pos places))

theorem add (left : AtLeastZero first) (right : AtLeastZero second) :
    AtLeastZero (UnpackedFloat.add format first second) := by
  cases left with
  | zero sign =>
      cases right with
      | zero other => cases sign <;> cases other <;> exact .zero _
      | finite => exact .finite ..
      | infinity => exact .infinity
  | finite _ _ filled =>
      cases right with
      | zero => exact .finite ..
      | finite _ _ filled' =>
          exact of_signOf (signOf_normalize_of_pos format
            (Int.add_pos (shiftLeft_pos filled _) (shiftLeft_pos filled' _)) _ _)
      | infinity => exact .infinity
  | infinity => cases right <;> exact .infinity

theorem mul_self (number : signOf value ≠ none) :
    AtLeastZero (UnpackedFloat.mul format value value) := by
  cases value with
  | notANumber => exact absurd rfl number
  | infinity sign => cases sign <;> exact .infinity
  | zero sign => exact .zero _
  | finite sign =>
      refine of_signOf ?_
      rw [UnpackedFloat.mul, signOf_roundWithAccuracy]
      cases sign <;> rfl

theorem signOf_sqrt (raised : AtLeastZero value) :
    signOf (UnpackedFloat.sqrt format value) ≠ none := by
  cases raised with
  | zero => exact Option.some_ne_none _
  | finite =>
      rw [UnpackedFloat.sqrt, signOf_roundWithAccuracy]
      exact Option.some_ne_none _
  | infinity => exact Option.some_ne_none _

end AtLeastZero

namespace Single

variable {value first second : Float32}

def sign (value : Float32) : Option Sign := signOf value.toModel.unpack

theorem isNaN_eq_false_of_sign (number : sign value ≠ none) : value.isNaN = false :=
  isNaN_eq_false_of_signOf number

/-- A result that is a number is one when it is packed. -/
theorem sign_pack {result : UnpackedFloat} (number : signOf result ≠ none) :
    sign ⟨Float32.Model.pack result⟩ ≠ none := by
  rwa [← signOf_unpack_pack .binary32] at number

theorem sign_sub (left : first.isFinite = true) (right : second.isFinite = true) :
    sign (first - second) ≠ none :=
  sign_pack (signOf_sub .binary32 left right)

theorem sign_one_add (number : sign value ≠ none) : sign (1.0 + value) ≠ none :=
  sign_pack (signOf_add .binary32 rfl number)

theorem sign_one_div (number : sign value ≠ none) : sign (1.0 / value) ≠ none :=
  sign_pack (signOf_div .binary32 number)

/-- A zero of either sign, or a number above zero, in single precision. -/
def Raised (value : Float32) : Prop := AtLeastZero value.toModel.unpack

theorem raised_add (left : Raised first) (right : Raised second) : Raised (first + second) :=
  (AtLeastZero.add .binary32 left right).unpack_pack .binary32

theorem raised_mul_self (number : sign value ≠ none) : Raised (value * value) :=
  (AtLeastZero.mul_self .binary32 number).unpack_pack .binary32

theorem sign_sqrt (raised : Raised value) : sign value.sqrt ≠ none :=
  sign_pack (raised.signOf_sqrt .binary32)

theorem raised_sum {values : List Float32} (raised : ∀ value ∈ values, Raised value)
    {start : Float32} (base : Raised start) : Raised (values.foldl (· + ·) start) := by
  induction values generalizing start with
  | nil => exact base
  | cons value values ih =>
      rw [List.foldl_cons]
      exact ih (fun other member => raised other (List.mem_cons_of_mem value member))
        (raised_add base (raised value List.mem_cons_self))

end Single

end Retrieval
