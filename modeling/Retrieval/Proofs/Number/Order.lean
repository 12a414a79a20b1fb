import Mathlib.Data.Int.CharZero
import Mathlib.Data.Prod.Lex

/-!
# The order of single-precision numbers

Comparison of two numbers is comparison of their levels, which are linearly
ordered.  What is no number is neither below nor above anything.
-/

namespace Retrieval

open Float.Model (UnpackedFloat)

/-- Kind and sign, then exponent, then mantissa; for negative numbers the last two mirrored.
Both zeros have one level, and what is no number has theirs. -/
def levelOf : UnpackedFloat → Int ×ₗ Int ×ₗ Int
  | .infinity .negative => toLex (-2, toLex (0, 0))
  | .finite .negative mantissa exponent _ => toLex (-1, toLex (-exponent, -mantissa))
  | .zero _ => toLex (0, toLex (0, 0))
  | .notANumber => toLex (0, toLex (0, 0))
  | .finite .positive mantissa exponent _ => toLex (1, toLex (exponent, mantissa))
  | .infinity .positive => toLex (2, toLex (0, 0))

theorem compare_notANumber_right (number : UnpackedFloat) :
    number.compare .notANumber = none := by
  cases number <;> rfl

/-- Numbers with one sign are compared by exponent and then by mantissa. -/
theorem then_compare_eq_lt_iff (exponent exponent' : Int) (mantissa mantissa' : Nat) :
    (compare exponent exponent').then (compare mantissa mantissa') = .lt ↔
      toLex (exponent, (mantissa : Int)) < toLex (exponent', (mantissa' : Int)) := by
  simp only [Ordering.then_eq_lt, compare_lt_iff_lt, compare_eq_iff_eq, Prod.Lex.toLex_lt_toLex,
    Int.ofNat_lt]

theorem then_compare_eq_gt_iff (exponent exponent' : Int) (mantissa mantissa' : Nat) :
    (compare exponent exponent').then (compare mantissa mantissa') = .gt ↔
      toLex (-exponent, -(mantissa : Int)) < toLex (-exponent', -(mantissa' : Int)) := by
  simp only [Ordering.then_eq_gt, compare_gt_iff_gt, compare_eq_iff_eq, Prod.Lex.toLex_lt_toLex,
    Int.neg_lt_neg_iff, Int.ofNat_lt, Int.neg_inj]

theorem compare_eq_lt_iff {first second : UnpackedFloat} (left : first.isNaN = false)
    (right : second.isNaN = false) :
    first.compare second = some .lt ↔ levelOf first < levelOf second := by
  have outer := @Prod.Lex.toLex_lt_toLex Int (Int ×ₗ Int) _ _
  cases first with
  | notANumber => cases left
  | infinity sign =>
      cases second with
      | notANumber => cases right
      | infinity other => cases sign <;> cases other <;> decide
      | zero other => cases sign <;> cases other <;> decide
      | finite other =>
          cases sign <;> cases other <;> dsimp only [UnpackedFloat.compare, levelOf] <;>
            simp [outer]
  | zero sign =>
      cases second with
      | notANumber => cases right
      | infinity other => cases sign <;> cases other <;> decide
      | zero other => cases sign <;> cases other <;> decide
      | finite other =>
          cases other <;> dsimp only [UnpackedFloat.compare, levelOf] <;> simp [outer]
  | finite sign =>
      cases second with
      | notANumber => cases right
      | infinity other =>
          cases sign <;> cases other <;> dsimp only [UnpackedFloat.compare, levelOf] <;>
            simp [outer]
      | zero other => cases sign <;> dsimp only [UnpackedFloat.compare, levelOf] <;> simp [outer]
      | finite other =>
          cases sign <;> cases other <;> dsimp only [UnpackedFloat.compare, levelOf] <;>
            simp [outer, then_compare_eq_lt_iff, then_compare_eq_gt_iff]

theorem compare_eq_eq_iff {first second : UnpackedFloat} (left : first.isNaN = false)
    (right : second.isNaN = false) :
    first.compare second = some .eq ↔ levelOf first = levelOf second := by
  cases first with
  | notANumber => cases left
  | infinity sign =>
      cases second with
      | notANumber => cases right
      | infinity other => cases sign <;> cases other <;> decide
      | zero other => cases sign <;> cases other <;> decide
      | finite other =>
          cases sign <;> cases other <;> dsimp only [UnpackedFloat.compare, levelOf] <;> simp
  | zero sign =>
      cases second with
      | notANumber => cases right
      | infinity other => cases sign <;> cases other <;> decide
      | zero other => cases sign <;> cases other <;> decide
      | finite other =>
          cases other <;> dsimp only [UnpackedFloat.compare, levelOf] <;> simp
  | finite sign =>
      cases second with
      | notANumber => cases right
      | infinity other =>
          cases sign <;> cases other <;> dsimp only [UnpackedFloat.compare, levelOf] <;> simp
      | zero other => cases sign <;> dsimp only [UnpackedFloat.compare, levelOf] <;> simp
      | finite other =>
          cases sign <;> cases other <;> dsimp only [UnpackedFloat.compare, levelOf] <;> simp

namespace Single

def level (value : Float32) : Int ×ₗ Int ×ₗ Int := levelOf value.toModel.unpack

theorem lt_iff_compare {first second : Float32} :
    first < second ↔ first.toModel.unpack.compare second.toModel.unpack = some .lt := by
  change decide (first.toModel.unpack.lt second.toModel.unpack = true) = true ↔ _
  rw [decide_eq_true_iff, UnpackedFloat.lt, beq_iff_eq]

theorem lt_iff_level {first second : Float32} (left : first.isNaN = false)
    (right : second.isNaN = false) : first < second ↔ level first < level second :=
  lt_iff_compare.trans (compare_eq_lt_iff left right)

theorem beq_iff_level {first second : Float32} (left : first.isNaN = false)
    (right : second.isNaN = false) : (first == second) = true ↔ level first = level second := by
  change (first.toModel.unpack.compare second.toModel.unpack == some .eq) = true ↔ _
  rw [beq_iff_eq]
  exact compare_eq_eq_iff left right

theorem isNaN_of_le {first second : Float32} (above : first ≤ second) :
    second.isNaN = false := by
  have compared : (first.toModel.unpack.compare second.toModel.unpack).any (·.isLE) = true :=
    of_decide_eq_true above
  change second.toModel.unpack.isNaN = false
  cases kind : second.toModel.unpack with
  | notANumber =>
      rw [kind, compare_notANumber_right] at compared
      cases compared
  | infinity => rfl
  | zero => rfl
  | finite => rfl

end Single

end Retrieval
