/-!
# The shortest decimal that reads back

A binary number stands for every real that rounds to it.  Its shortest decimal
is the one with the fewest digits among those reals and, of several with that
many digits, the nearest to the number itself.
-/

namespace Retrieval

/-- A decimal number, without a zero at the end of its digits. -/
structure Decimal where
  digits : Nat
  exponent : Int
  deriving DecidableEq, Repr

/-- A positive number `mantissa * 2 ^ exponent` of a binary format. -/
structure Binary where
  mantissa : Nat
  exponent : Int
  /-- The next number below is half as far away as the next one above. -/
  closeBelow : Bool
  deriving DecidableEq, Repr

/-- Which of two decimals equally far from the number is taken. -/
inductive Tie where
  | toEven
  | up
  deriving DecidableEq, Repr

inductive Parts where
  | notANumber
  | infinite (negative : Bool)
  | zero (negative : Bool)
  | finite (negative : Bool) (magnitude : Binary)
  deriving DecidableEq, Repr

namespace Parts

/-- The fields of a bit pattern: sign, exponent and mantissa, the last of the given width. -/
def ofBits (exponentWidth mantissaWidth bits : Nat) : Parts :=
  let mantissa := bits % Nat.pow 2 mantissaWidth
  let exponent := bits / Nat.pow 2 mantissaWidth % Nat.pow 2 exponentWidth
  let negative := bits / Nat.pow 2 (mantissaWidth + exponentWidth) % 2 == 1
  let lowest : Int := 2 - Nat.pow 2 (exponentWidth - 1) - mantissaWidth
  if exponent = Nat.pow 2 exponentWidth - 1 then
    if mantissa = 0 then .infinite negative else .notANumber
  else if exponent = 0 then
    if mantissa = 0 then .zero negative else .finite negative ⟨mantissa, lowest, false⟩
  else
    .finite negative
      ⟨Nat.pow 2 mantissaWidth + mantissa, lowest + exponent - 1, mantissa == 0 && 1 < exponent⟩

def ofSingle (value : Float32) : Parts := ofBits 8 23 value.toBits.toNat

def ofDouble (value : Float) : Parts := ofBits 11 52 value.toBits.toNat

end Parts

namespace Decimal

def digitCount (number : Nat) : Nat := (Nat.toDigits 10 number).length

/-- The same number with the zeros at the end moved into the exponent. -/
def trimmed : Nat → Nat → Int → Decimal
  | 0, digits, exponent => ⟨digits, exponent⟩
  | steps + 1, digits, exponent =>
      if digits % 10 = 0 ∧ digits ≠ 0 then trimmed steps (digits / 10) (exponent + 1)
      else ⟨digits, exponent⟩

end Decimal

namespace Binary

/-- A fraction of natural numbers equal to `quarters / 4` mantissa units of the number. -/
def fraction (number : Binary) (quarters : Nat) : Nat × Nat :=
  let exponent := number.exponent - 2
  (quarters * Nat.pow 2 exponent.toNat, Nat.pow 2 (-exponent).toNat)

/-- Comparison of `digits * 10 ^ exponent` with a fraction. -/
def compareScaled (digits : Nat) (exponent : Int) (target : Nat × Nat) : Ordering :=
  compare (digits * Nat.pow 10 exponent.toNat * target.2)
    (target.1 * Nat.pow 10 (-exponent).toNat)

/-- The decimal rounds to the number; the ends of the interval do if the mantissa is even. -/
def includes (number : Binary) (digits : Nat) (exponent : Int) : Bool :=
  let below := compareScaled digits exponent
    (number.fraction (4 * number.mantissa - if number.closeBelow then 1 else 2))
  let above := compareScaled digits exponent (number.fraction (4 * number.mantissa + 2))
  let even := number.mantissa % 2 == 0
  (below == .gt || (even && below == .eq)) && (above == .lt || (even && above == .eq))

/-- The exponent of the power of ten that starts the decade of the number. -/
def decade (number : Binary) : Int :=
  let (numerator, denominator) := number.fraction (4 * number.mantissa)
  if denominator ≤ numerator then
    (Decimal.digitCount (numerator / denominator) : Int) - 1
  else
    let places := Decimal.digitCount (denominator / numerator) - 1
    if denominator ≤ numerator * Nat.pow 10 places then -(places : Int) else -(places : Int) - 1

/-- The better of the two decimals around the number with a given last place, if one rounds
to it. -/
def nearestAt? (tie : Tie) (number : Binary) (exponent : Int) : Option Nat :=
  let (numerator, denominator) := number.fraction (4 * number.mantissa)
  let scaledNumerator := numerator * Nat.pow 10 (-exponent).toNat
  let scaledDenominator := denominator * Nat.pow 10 exponent.toNat
  let lower := scaledNumerator / scaledDenominator
  let twiceRest := 2 * (scaledNumerator % scaledDenominator)
  match number.includes lower exponent, number.includes (lower + 1) exponent with
  | false, false => none
  | true, false => some lower
  | false, true => some (lower + 1)
  | true, true =>
      match compare twiceRest scaledDenominator, tie with
      | .lt, _ => some lower
      | .gt, _ => some (lower + 1)
      | .eq, .up => some (lower + 1)
      | .eq, .toEven => some (lower + lower % 2)

/-- The first answer while the last place moves down. -/
def search (tie : Tie) (number : Binary) : Nat → Int → Decimal
  | 0, exponent => ⟨0, exponent⟩
  | steps + 1, exponent =>
      match number.nearestAt? tie exponent with
      | some digits => Decimal.trimmed 20 digits exponent
      | none => search tie number steps (exponent - 1)

/-- Seventeen digits are enough for every number of double precision. -/
def shortest (tie : Tie) (number : Binary) : Decimal :=
  search tie number 18 number.decade

end Binary

end Retrieval
