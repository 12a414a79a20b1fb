import Retrieval.Json.Basic
import Retrieval.Number.Digits

/-!
# Numbers in JSON

A numeral without fraction and exponent is an integer if it fits sixty-four
bits.  Every other numeral is a double-precision number, found from the digits
that fit sixty-four bits by one multiplication with or division by a power of
ten; one beyond the range of double precision has no value.  A number is written
with the shortest digits that read back.
-/

namespace Retrieval

inductive Number where
  | natural (value : Nat)
  | negative (magnitude : Nat)
  | real (value : Float)

namespace Numeral

def largest : Nat := UInt64.size - 1

/-- Digits go into the significand while it fits; the rest of them come back. -/
def absorb (significand : Nat) : List Char → Nat × List Char
  | [] => (significand, [])
  | digit :: rest =>
      let grown := 10 * significand + Digits.valueOf digit
      if grown ≤ largest then absorb grown rest else (significand, digit :: rest)

/-- The exponents that a power of ten in double precision can have. -/
def powerLimit : Nat := 308

def powerOfTen (exponent : Nat) : Float := Float.ofScientific 1 false exponent

/-- Division by powers of ten until the exponent is in reach. -/
def scaleDown (value : Float) (exponent : Nat) : Float :=
  if exponent ≤ powerLimit then value / powerOfTen exponent
  else if value == 0 then value
  else scaleDown (value / powerOfTen powerLimit) (exponent - powerLimit)
termination_by exponent
decreasing_by simp [powerLimit] at *; omega

/-- A significand times a power of ten; none if that is beyond double precision. -/
def scale? (significand : Nat) (exponent : Int) : Option Float :=
  let value := (UInt64.ofNat significand).toFloat
  if exponent < 0 then some (scaleDown value (-exponent).toNat)
  else if exponent.toNat ≤ powerLimit then
    let scaled := value * powerOfTen exponent.toNat
    if scaled.isInf then none else some scaled
  else if value == 0 then some value
  else none

/-- The magnitude of a numeral in double precision. -/
def magnitude? (numeral : Numeral) : Option Float :=
  let (whole, dropped) := absorb 0 numeral.whole
  let decimals := numeral.fraction.getD []
  let (significand, unused) := absorb whole decimals
  let places : Int := dropped.length - (decimals.length - unused.length)
  match numeral.exponent with
  | none => scale? significand places
  | some (lowers, digits) =>
      let power := Digits.number digits
      if UInt32.size / 2 ≤ power then
        if significand = 0 ∨ lowers then some 0 else none
      else if lowers then scale? significand (places - power)
      else scale? significand (places + power)

def signed (negative : Bool) (value : Float) : Float := if negative then -value else value

/-- What the numeral stands for; a zero with a minus sign is no integer. -/
def value? (numeral : Numeral) : Option Number :=
  match numeral.fraction, numeral.exponent with
  | none, none =>
      let magnitude := Digits.number numeral.whole
      if largest < magnitude then
        numeral.magnitude?.map fun value => .real (signed numeral.negative value)
      else if !numeral.negative then some (.natural magnitude)
      else if 0 < magnitude ∧ magnitude ≤ UInt64.size / 2 then some (.negative magnitude)
      else some (.real (-(UInt64.ofNat magnitude).toFloat))
  | _, _ => numeral.magnitude?.map fun value => .real (signed numeral.negative value)

def ofNat (number : Nat) : Numeral := ⟨false, Nat.toDigits 10 number, none, none⟩

/-- From which decades on a number is written with an exponent. -/
structure Style where
  /-- The largest number of digits before the point. -/
  widest : Int
  /-- The largest number of zeros after the point before the first digit. -/
  deepest : Int

def singleStyle : Style := ⟨13, 5⟩

def doubleStyle : Style := ⟨16, 4⟩

/-- A decimal number with a point where its size allows, else with an exponent. -/
def ofDecimal (style : Style) (negative : Bool) (decimal : Decimal) : Numeral :=
  let digits := Nat.toDigits 10 decimal.digits
  let point : Int := digits.length + decimal.exponent
  if 0 ≤ decimal.exponent ∧ point ≤ style.widest then
    ⟨negative, digits ++ List.replicate decimal.exponent.toNat '0', some ['0'], none⟩
  else if 0 < point ∧ point ≤ style.widest then
    ⟨negative, digits.take point.toNat, some (digits.drop point.toNat), none⟩
  else if -style.deepest ≤ point ∧ point ≤ 0 then
    ⟨negative, ['0'], some (List.replicate (-point).toNat '0' ++ digits), none⟩
  else
    let exponent := point - 1
    ⟨negative, digits.take 1,
      if digits.length = 1 then none else some (digits.drop 1),
      some (exponent < 0, Nat.toDigits 10 exponent.natAbs)⟩

def ofParts? (style : Style) : Parts → Option Numeral
  | .notANumber => none
  | .infinite _ => none
  | .zero negative => some ⟨negative, ['0'], some ['0'], none⟩
  | .finite negative magnitude => some (ofDecimal style negative (magnitude.shortest .toEven))

end Numeral

namespace Json

def ofNat (number : Nat) : Json := .number (Numeral.ofNat number)

/-- Only finite numbers have a numeral; the others are written as null. -/
def ofParts (style : Numeral.Style) (parts : Parts) : Json :=
  match Numeral.ofParts? style parts with
  | some numeral => .number numeral
  | none => .null

def ofSingle (value : Float32) : Json := ofParts Numeral.singleStyle (.ofSingle value)

def ofDouble (value : Float) : Json := ofParts Numeral.doubleStyle (.ofDouble value)

end Json

end Retrieval
