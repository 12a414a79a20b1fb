/-!
# Letters spelled out

A label that has letters of other scripts can be spelled in plain letters: first
the plain letters of the label, then, behind a hyphen, digits that say which
other letters stand where.  A number is written with its lowest digit first, and
a digit below its threshold ends it.  The thresholds follow the numbers before.
-/

namespace Retrieval

namespace Http

namespace Punycode

/-- The value of a digit: letters first, then decimal digits. -/
def digitValue? (digit : Char) : Option Nat :=
  if 'a' ≤ digit ∧ digit ≤ 'z' then some (digit.toNat - 'a'.toNat)
  else if '0' ≤ digit ∧ digit ≤ '9' then some (digit.toNat - '0'.toNat + 26)
  else none

/-- The threshold of a digit, given by how many digits stand before it. -/
def threshold (bias before : Nat) : Nat := max 1 (min 26 (36 * (before + 1) - bias))

/-- A number and the text behind it, where some digits of the number have been read and the
next one counts for a weight. -/
def number? (bias before weight : Nat) : List Char → Option (Nat × List Char)
  | [] => none
  | character :: rest => do
      let digit ← digitValue? character
      let threshold := threshold bias before
      if digit < threshold then return (digit * weight, rest)
      else
        let (others, after) ← number? bias (before + 1) (weight * (36 - threshold)) rest
        return (digit * weight + others, after)

theorem number?_shorter {bias before weight : Nat} {text after : List Char} {number : Nat}
    (found : number? bias before weight text = some (number, after)) :
    after.length < text.length := by
  induction text generalizing before weight number after with
  | nil => simp [number?] at found
  | cons character rest ih =>
      simp only [number?, Option.bind_eq_bind, Option.pure_def] at found
      obtain ⟨digit, _, found⟩ := Option.bind_eq_some_iff.1 found
      split at found
      · simp_all
      · obtain ⟨⟨others, behind⟩, deeper, equal⟩ := Option.bind_eq_some_iff.1 found
        simp only [Option.some.injEq, Prod.mk.injEq] at equal
        obtain ⟨_, rfl⟩ := equal
        exact Nat.lt_succ_of_lt (ih deeper)

/-- How often a number is divided until it is small, and what is left. -/
def shrink (number : Nat) : Nat × Nat :=
  if 455 < number then
    let (count, left) := shrink (number / 35)
    (count + 1, left)
  else (0, number)

/-- The bias behind a number, in a label of some letters. -/
def adapt (number letters : Nat) (isFirst : Bool) : Nat :=
  let damped := if isFirst then number / 700 else number / 2
  let (count, left) := shrink (damped + damped / letters)
  36 * count + 36 * left / (left + 38)

/-- The letters of a label, where some of them are known already.  A number says how far to go
from a letter at a place, through all places and then on to the next letter. -/
def insertAll (bias letter place : Nat) (known : List Char) (text : List Char) :
    Option (List Char) :=
  if text.isEmpty then some known
  else
    match found : number? bias 0 1 text with
    | none => none
    | some (number, rest) =>
        let count := known.length + 1
        let letter := letter + (place + number) / count
        let bias := adapt number count (place == 0)
        let place := (place + number) % count
        if letter.isValidChar then
          insertAll bias letter (place + 1) (known.insertIdx place (Char.ofNat letter)) rest
        else none
termination_by text.length
decreasing_by exact number?_shorter found

/-- The label that a text spells out.  A hyphen ends plain letters only if there are some. -/
def decode? (text : List Char) : Option (List Char) :=
  let behind := (text.reverse.takeWhile (· != '-')).reverse
  let plain := (text.take (text.length - behind.length)).dropLast
  insertAll 72 0x80 0 plain (if plain.isEmpty then text else behind)

end Punycode

end Http

end Retrieval
