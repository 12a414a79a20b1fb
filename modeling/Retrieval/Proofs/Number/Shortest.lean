import Mathlib.Algebra.Group.Nat.Defs
import Retrieval.Number.Shortest

/-!
# The search for the shortest decimal

The search goes from the first decimal place of a number seventeen places down.
There the decimals lie closer than the reals that round to the number reach
beyond it, so the search has found one by then (`exists_of_search`).  It is not
zero, and its point stands where the size of the number puts it.
-/

namespace Retrieval

namespace Decimal

theorem lt_pow_digitCount (number : Nat) : number < 10 ^ digitCount number :=
  (Nat.length_toDigits_le_iff (by decide) Nat.length_toDigits_pos).mp (Nat.le_refl _)

theorem pow_digitCount_le {number : Nat} (positive : 0 < number) :
    10 ^ (digitCount number - 1) ≤ number := by
  by_cases single : digitCount number - 1 = 0
  · rw [single]
    exact positive
  · have more : ¬ digitCount number ≤ digitCount number - 1 := by omega
    exact Nat.le_of_not_lt fun less =>
      more ((Nat.length_toDigits_le_iff (by decide) (Nat.pos_of_ne_zero single)).mpr less)

theorem digitCount_pos (number : Nat) : 0 < digitCount number := Nat.length_toDigits_pos

theorem digits_trimmed_ne_zero (steps : Nat) {digits : Nat} (exponent : Int)
    (filled : digits ≠ 0) : (trimmed steps digits exponent).digits ≠ 0 := by
  induction steps generalizing digits exponent with
  | zero => exact filled
  | succ steps ih =>
      rw [trimmed]
      split
      · next round =>
        refine ih (exponent + 1) ?_
        omega
      · exact filled

theorem digitCount_div_ten {number : Nat} (several : 10 ≤ number) :
    digitCount number = digitCount (number / 10) + 1 := by
  rw [digitCount, Nat.toDigits_of_base_le (by decide) several, List.length_append]
  rfl

/-- How many digits stand before the point; below zero, how many zeros stand behind it. -/
def point (decimal : Decimal) : Int := digitCount decimal.digits + decimal.exponent

theorem point_trimmed (steps digits : Nat) (exponent : Int) :
    (trimmed steps digits exponent).point = digitCount digits + exponent := by
  induction steps generalizing digits exponent with
  | zero => rfl
  | succ steps ih =>
      rw [trimmed]
      split
      · next round =>
        have several : 10 ≤ digits := by omega
        rw [ih, digitCount_div_ten several]
        omega
      · rfl

end Decimal

namespace Binary

/-- A quarter of a mantissa unit is this numerator over `denominator`. -/
def unit (number : Binary) : Nat := 2 ^ (number.exponent - 2).toNat

def denominator (number : Binary) : Nat := 2 ^ (-(number.exponent - 2)).toNat

theorem fraction_eq (number : Binary) (quarters : Nat) :
    number.fraction quarters = (quarters * number.unit, number.denominator) :=
  rfl

theorem unit_pos (number : Binary) : 0 < number.unit := Nat.two_pow_pos _

theorem denominator_pos (number : Binary) : 0 < number.denominator := Nat.two_pow_pos _

/-- The denominator times the positive power of a last place. -/
def spacing (number : Binary) (exponent : Int) : Nat :=
  number.denominator * 10 ^ exponent.toNat

/-- A quarter of a mantissa unit at a last place. -/
def quarter (number : Binary) (exponent : Int) : Nat := number.unit * 10 ^ (-exponent).toNat

theorem quarter_pos (number : Binary) (exponent : Int) : 0 < number.quarter exponent :=
  Nat.mul_pos number.unit_pos (Nat.pow_pos (by decide))

theorem spacing_pos (number : Binary) (exponent : Int) : 0 < number.spacing exponent :=
  Nat.mul_pos number.denominator_pos (Nat.pow_pos (by decide))

theorem compareScaled_fraction (number : Binary) (digits quarters : Nat) (exponent : Int) :
    compareScaled digits exponent (number.fraction quarters) =
      compare (digits * number.spacing exponent) (quarters * number.quarter exponent) := by
  rw [fraction_eq, compareScaled, spacing, quarter]
  congr 1
  · rw [Nat.mul_assoc, Nat.mul_comm number.denominator]
    rfl
  · rw [Nat.mul_assoc]
    rfl

/-- The lower end of the reals that round to the number, at a last place. -/
def lowerEnd (number : Binary) (exponent : Int) : Nat :=
  (4 * number.mantissa - if number.closeBelow then 1 else 2) * number.quarter exponent

def upperEnd (number : Binary) (exponent : Int) : Nat :=
  (4 * number.mantissa + 2) * number.quarter exponent

variable {number : Binary} {digits : Nat} {exponent : Int}

theorem includes_iff : number.includes digits exponent = true ↔
    (number.lowerEnd exponent < digits * number.spacing exponent ∨
      number.mantissa % 2 = 0 ∧ digits * number.spacing exponent = number.lowerEnd exponent) ∧
    (digits * number.spacing exponent < number.upperEnd exponent ∨
      number.mantissa % 2 = 0 ∧ digits * number.spacing exponent = number.upperEnd exponent) := by
  simp only [includes, compareScaled_fraction, lowerEnd, upperEnd, Bool.and_eq_true,
    Bool.or_eq_true, beq_iff_eq, Nat.compare_eq_gt, Nat.compare_eq_lt, Nat.compare_eq_eq]

theorem ne_zero_of_includes (positive : 0 < number.mantissa)
    (rounds : number.includes digits exponent = true) : digits ≠ 0 := by
  rintro rfl
  have low : 0 < number.lowerEnd exponent := by
    refine Nat.mul_pos ?_ (number.quarter_pos exponent)
    split <;> omega
  obtain ⟨above, -⟩ := includes_iff.mp rounds
  omega

theorem includes_of_nearestAt? {tie : Tie}
    (found : number.nearestAt? tie exponent = some digits) :
    number.includes digits exponent = true := by
  unfold nearestAt? at found
  dsimp only at found
  generalize (number.fraction (4 * number.mantissa)).1 * Nat.pow 10 (-exponent).toNat /
    ((number.fraction (4 * number.mantissa)).2 * Nat.pow 10 exponent.toNat) = lower at found
  cases low : number.includes lower exponent <;>
    cases high : number.includes (lower + 1) exponent <;> simp only [low, high] at found
  case false.false => cases found
  case false.true =>
    cases found
    exact high
  case true.false =>
    cases found
    exact low
  case true.true =>
    split at found <;> cases found
    · exact low
    · exact high
    · exact high
    · rcases Nat.mod_two_eq_zero_or_one lower with even | odd
      · rw [even]
        exact low
      · rw [odd]
        exact high

/-- Where decimals lie closer than half a mantissa unit, the next one above the number rounds to
it, and so one is found. -/
theorem exists_nearestAt? (tie : Tie)
    (dense : number.spacing exponent < 2 * number.quarter exponent) :
    ∃ digits, number.nearestAt? tie exponent = some digits := by
  let lower := 4 * number.mantissa * number.quarter exponent / number.spacing exponent
  have measured : (number.fraction (4 * number.mantissa)).1 * Nat.pow 10 (-exponent).toNat /
      ((number.fraction (4 * number.mantissa)).2 * Nat.pow 10 exponent.toNat) = lower := by
    rw [fraction_eq, Nat.mul_assoc]
    rfl
  have above : 4 * number.mantissa * number.quarter exponent <
      (lower + 1) * number.spacing exponent := by
    rw [Nat.mul_comm (lower + 1)]
    exact Nat.lt_mul_div_succ _ (number.spacing_pos exponent)
  have floor : lower * number.spacing exponent ≤ 4 * number.mantissa * number.quarter exponent :=
    Nat.div_mul_le_self _ _
  have high : number.includes (lower + 1) exponent = true := by
    refine includes_iff.mpr ⟨.inl ?_, .inl ?_⟩
    · exact Nat.lt_of_le_of_lt (Nat.mul_le_mul_right _ (Nat.sub_le _ _)) above
    · rw [upperEnd, Nat.add_mul, Nat.add_mul, Nat.one_mul]
      exact Nat.add_lt_add_of_le_of_lt floor dense
  unfold nearestAt?
  dsimp only
  rw [measured]
  cases low : number.includes lower exponent <;> simp only [high]
  case false => exact ⟨_, rfl⟩
  case true =>
    split <;> exact ⟨_, rfl⟩

/-! ## Where the search starts -/

def decadeOf (numerator denominator : Nat) : Int :=
  if denominator ≤ numerator then
    (Decimal.digitCount (numerator / denominator) : Int) - 1
  else
    let places := Decimal.digitCount (denominator / numerator) - 1
    if denominator ≤ numerator * 10 ^ places then -(places : Int) else -(places : Int) - 1

theorem decade_eq (number : Binary) :
    number.decade = decadeOf (4 * number.mantissa * number.unit) number.denominator :=
  rfl

/-- The power of ten that starts the decade of a fraction is no larger than the fraction. -/
theorem pow_decadeOf_le {numerator denominator : Nat} (filled : 0 < numerator)
    (bound : 0 < denominator) :
    denominator * 10 ^ (decadeOf numerator denominator).toNat ≤
      numerator * 10 ^ (-decadeOf numerator denominator).toNat := by
  unfold decadeOf
  dsimp only
  split
  · next whole =>
    have counted := Decimal.pow_digitCount_le (Nat.div_pos whole bound)
    have several := Decimal.digitCount_pos (numerator / denominator)
    have up : ((Decimal.digitCount (numerator / denominator) : Int) - 1).toNat =
        Decimal.digitCount (numerator / denominator) - 1 := by omega
    have down : (-((Decimal.digitCount (numerator / denominator) : Int) - 1)).toNat = 0 := by
      omega
    rw [up, down, Nat.pow_zero, Nat.mul_one, Nat.mul_comm]
    exact Nat.le_trans (Nat.mul_le_mul_right _ counted) (Nat.div_mul_le_self _ _)
  · next less =>
    let places := Decimal.digitCount (denominator / numerator) - 1
    split
    · next within =>
      have up : (-(places : Int)).toNat = 0 := by omega
      have down : (-(-(places : Int))).toNat = places := by omega
      rw [up, down, Nat.pow_zero, Nat.mul_one]
      exact within
    · have up : (-(places : Int) - 1).toNat = 0 := by omega
      have down : (-(-(places : Int) - 1)).toNat = places + 1 := by omega
      have several := Decimal.digitCount_pos (denominator / numerator)
      have next : places + 1 = Decimal.digitCount (denominator / numerator) := by omega
      have counted := Decimal.lt_pow_digitCount (denominator / numerator)
      rw [up, down, Nat.pow_zero, Nat.mul_one, next, Nat.mul_comm]
      exact Nat.le_of_lt ((Nat.div_lt_iff_lt_mul filled).mp counted)

/-- Seventeen places below the decade of a number with at most fifty-three bits, decimals lie
closer than half a mantissa unit. -/
theorem dense_below_decade (positive : 0 < number.mantissa) (small : number.mantissa < 2 ^ 53) :
    number.spacing (number.decade - 17) < 2 * number.quarter (number.decade - 17) := by
  have quarters : 0 < 4 * number.mantissa := by omega
  have start := pow_decadeOf_le (Nat.mul_pos quarters number.unit_pos) number.denominator_pos
  rw [← decade_eq] at start
  let up := number.decade.toNat
  let down := (-number.decade).toNat
  let lowerUp := (number.decade - 17).toNat
  let lowerDown := (-(number.decade - 17)).toNat
  have places : 10 ^ lowerUp * (10 ^ down * 10 ^ 17) = 10 ^ up * 10 ^ lowerDown := by
    rw [← Nat.pow_add, ← Nat.pow_add, ← Nat.pow_add]
    congr 1
    omega
  have bits : 4 * number.mantissa < 2 * 10 ^ 17 := by omega
  have quarter_eq : number.quarter (number.decade - 17) = number.unit * 10 ^ lowerDown := rfl
  refine Nat.lt_of_mul_lt_mul_right (a := 10 ^ down * 10 ^ 17) ?_
  calc number.spacing (number.decade - 17) * (10 ^ down * 10 ^ 17)
      = number.denominator * 10 ^ up * 10 ^ lowerDown := by
        rw [spacing, Nat.mul_assoc, places, Nat.mul_assoc]
    _ ≤ 4 * number.mantissa * number.unit * 10 ^ down * 10 ^ lowerDown :=
        Nat.mul_le_mul_right _ start
    _ = 4 * number.mantissa * (number.quarter (number.decade - 17) * 10 ^ down) := by
        rw [quarter_eq]
        simp only [Nat.mul_assoc, Nat.mul_comm, Nat.mul_left_comm]
    _ < 2 * 10 ^ 17 * (number.quarter (number.decade - 17) * 10 ^ down) :=
        Nat.mul_lt_mul_of_pos_right bits
          (Nat.mul_pos (number.quarter_pos _) (Nat.pow_pos (by decide)))
    _ = 2 * number.quarter (number.decade - 17) * (10 ^ down * 10 ^ 17) := by
        simp only [Nat.mul_assoc, Nat.mul_comm, Nat.mul_left_comm]

/-! ## The search -/

/-- The search ends with a decimal that rounds to the number, without the zeros at its end. -/
theorem exists_of_search {tie : Tie} {steps : Nat}
    (reached : ∃ digits, number.nearestAt? tie (exponent - steps) = some digits) :
    ∃ digits place, number.includes digits place = true ∧
      search tie number (steps + 1) exponent = Decimal.trimmed 20 digits place := by
  induction steps generalizing exponent with
  | zero =>
      obtain ⟨digits, found⟩ := reached
      rw [Int.natCast_zero, Int.sub_zero] at found
      rw [search, found]
      exact ⟨digits, exponent, includes_of_nearestAt? found, rfl⟩
  | succ steps ih =>
      rw [search]
      cases found : number.nearestAt? tie exponent with
      | some digits => exact ⟨digits, exponent, includes_of_nearestAt? found, rfl⟩
      | none =>
          refine ih ?_
          have shifted : exponent - 1 - (steps : Int) = exponent - ((steps + 1 : Nat) : Int) := by
            omega
          rw [shifted]
          exact reached

/-- The shortest decimal of a positive number of at most fifty-three bits rounds to it. -/
theorem exists_of_shortest (tie : Tie) (positive : 0 < number.mantissa)
    (small : number.mantissa < 2 ^ 53) :
    ∃ digits place, number.includes digits place = true ∧
      number.shortest tie = Decimal.trimmed 20 digits place :=
  exists_of_search (exists_nearestAt? tie (dense_below_decade positive small))

theorem digits_shortest_ne_zero (tie : Tie) (positive : 0 < number.mantissa)
    (small : number.mantissa < 2 ^ 53) : (number.shortest tie).digits ≠ 0 := by
  obtain ⟨digits, place, rounds, same⟩ := exists_of_shortest tie positive small
  rw [same]
  exact Decimal.digits_trimmed_ne_zero _ _ (ne_zero_of_includes positive rounds)

/-- Decimals that round to a number below a power of ten have no more digits before the point
than that power. -/
theorem digitCount_le_of_includes {power : Nat}
    (large : (4 * number.mantissa + 2) * number.unit ≤ 10 ^ power) (filled : 0 < digits)
    (rounds : number.includes digits exponent = true) :
    (Decimal.digitCount digits : Int) + exponent ≤ power + 1 := by
  have several := Decimal.digitCount_pos digits
  have within : digits * number.spacing exponent ≤ number.upperEnd exponent := by
    obtain ⟨-, below⟩ := includes_iff.mp rounds
    omega
  have scaled : 10 ^ (Decimal.digitCount digits - 1 + exponent.toNat) ≤
      10 ^ (power + (-exponent).toNat) := by
    calc 10 ^ (Decimal.digitCount digits - 1 + exponent.toNat)
        = 10 ^ (Decimal.digitCount digits - 1) * 10 ^ exponent.toNat := Nat.pow_add _ _ _
      _ ≤ digits * number.spacing exponent :=
          Nat.mul_le_mul (Decimal.pow_digitCount_le filled)
            (Nat.le_mul_of_pos_left _ number.denominator_pos)
      _ ≤ (4 * number.mantissa + 2) * number.unit * 10 ^ (-exponent).toNat := by
          rw [Nat.mul_assoc]
          exact within
      _ ≤ 10 ^ power * 10 ^ (-exponent).toNat := Nat.mul_le_mul_right _ large
      _ = 10 ^ (power + (-exponent).toNat) := (Nat.pow_add _ _ _).symm
  have places := (Nat.pow_le_pow_iff_right (by decide)).mp scaled
  omega

theorem point_shortest_le {power : Nat} (tie : Tie) (positive : 0 < number.mantissa)
    (small : number.mantissa < 2 ^ 53)
    (large : (4 * number.mantissa + 2) * number.unit ≤ 10 ^ power) :
    (number.shortest tie).point ≤ power + 1 := by
  obtain ⟨digits, place, rounds, same⟩ := exists_of_shortest tie positive small
  rw [same, Decimal.point_trimmed]
  exact digitCount_le_of_includes large
    (Nat.pos_of_ne_zero (ne_zero_of_includes positive rounds)) rounds

end Binary

namespace Parts

/-- The mantissa of a finite number is not zero and has one bit more than its field at most. -/
theorem mantissa_of_finite {exponentWidth mantissaWidth bits : Nat} {negative : Bool}
    {magnitude : Binary}
    (finite : ofBits exponentWidth mantissaWidth bits = .finite negative magnitude) :
    0 < magnitude.mantissa ∧ magnitude.mantissa < 2 ^ (mantissaWidth + 1) := by
  have field : bits % Nat.pow 2 mantissaWidth < Nat.pow 2 mantissaWidth :=
    Nat.mod_lt _ (Nat.two_pow_pos mantissaWidth)
  have double : 2 ^ (mantissaWidth + 1) = Nat.pow 2 mantissaWidth * 2 := rfl
  rw [double]
  unfold ofBits at finite
  dsimp only at finite
  split at finite
  · split at finite <;> cases finite
  · split at finite
    · split at finite
      · cases finite
      · cases finite
        dsimp only
        omega
    · cases finite
      dsimp only
      omega

theorem exponent_of_single {value : Float32} {negative : Bool} {magnitude : Binary}
    (finite : ofSingle value = .finite negative magnitude) : magnitude.exponent ≤ 104 := by
  unfold ofSingle ofBits at finite
  dsimp only at finite
  have field : value.toBits.toNat / Nat.pow 2 23 % Nat.pow 2 8 < Nat.pow 2 8 :=
    Nat.mod_lt _ (Nat.two_pow_pos 8)
  have full : Nat.pow 2 8 = 256 := rfl
  have middle : Nat.pow 2 (8 - 1) = 128 := rfl
  rw [full] at field finite
  rw [middle] at finite
  split at finite
  · split at finite <;> cases finite
  · split at finite
    · split at finite
      · cases finite
      · cases finite
        dsimp only
        omega
    · cases finite
      dsimp only
      omega

end Parts

end Retrieval
