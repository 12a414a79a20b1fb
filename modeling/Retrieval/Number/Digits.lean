/-!
# Digits

The number that digits write, in decimal notation or in that of another base up
to sixteen, and numbers as they are given on their own: decimal digits, perhaps
behind a plus sign.
-/

namespace Retrieval

namespace Digits

def valueOf (digit : Char) : Nat := digit.toNat - '0'.toNat

/-- The number that a list of digits writes; no digits write zero. -/
def number (digits : List Char) : Nat :=
  digits.foldl (fun number digit => 10 * number + valueOf digit) 0

def hexValue? (digit : Char) : Option Nat :=
  if '0' ≤ digit ∧ digit ≤ '9' then some (digit.toNat - '0'.toNat)
  else if 'a' ≤ digit ∧ digit ≤ 'f' then some (digit.toNat - 'a'.toNat + 10)
  else if 'A' ≤ digit ∧ digit ≤ 'F' then some (digit.toNat - 'A'.toNat + 10)
  else none

def valueIn? (base : Nat) (digit : Char) : Option Nat := (hexValue? digit).filter (· < base)

/-- The number that digits of a base write; no digits write zero. -/
def numberIn? (base : Nat) (digits : List Char) : Option Nat := do
  return (← digits.mapM (valueIn? base)).foldl (fun number digit => base * number + digit) 0

/-- A number written in digits, perhaps behind a plus sign. -/
def natural? (text : String) : Option Nat :=
  let characters := text.toList
  let digits := if characters.head? = some '+' then characters.drop 1 else characters
  if digits.isEmpty || !digits.all Char.isDigit then none else some (number digits)

end Digits

end Retrieval
