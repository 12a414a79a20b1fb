import Retrieval.Number.Digits
import Retrieval.Text.Split

/-!
# Maps on code points

A map that gives some code points other ones in their place, in runs: a run goes
from a first code point to a last one in steps, and the last code point of its
image goes up with it or stays.  A run is written in hexadecimal digits, as
`41-5A=61` if its image goes up, as `132-133:69+6A` if it stays, and as
`100-12E/2=101` if it goes in other steps than one.
-/

namespace Retrieval

/-- Neighbouring code points with images of one shape. -/
structure CodeRun where
  first : Nat
  last : Nat
  step : Nat
  rises : Bool
  /-- What the first code point stands for. -/
  image : List Nat
  deriving DecidableEq, Repr

namespace CodeRun

def image? (run : CodeRun) (code : Nat) : Option (List Nat) :=
  let way := code - run.first
  if run.first ≤ code ∧ code ≤ run.last ∧ way % run.step = 0 then
    if run.rises then some (run.image.dropLast ++ [run.image.getLastD 0 + way])
    else some run.image
  else none

/-- The code point of the run that stands for some others. -/
def source? (run : CodeRun) (image : List Nat) : Option Nat :=
  let code := run.first + (image.getLastD 0 - run.image.getLastD 0)
  if run.image? code = some image then some code else none

/-! ### Written runs -/

def number? (digits : List Char) : Option Nat :=
  if digits.isEmpty then none else Digits.numberIn? 16 digits

/-- What stands before and behind a sign; without the sign nothing stands behind it. -/
def cut (sign : Char) (text : List Char) : List Char × List Char :=
  (text.takeWhile (· != sign), (text.dropWhile (· != sign)).drop 1)

/-- The run with an image that is written in one word. -/
def ofWord? (word : List Char) : Option CodeRun := do
  let rises := word.contains '='
  let (source, image) := cut (if rises then '=' else ':') word
  let (range, step) := cut '/' source
  let (first, last) := cut '-' range
  let first ← number? first
  return {
    first
    last := (number? last).getD first
    step := (number? step).getD 1
    rises
    image := ← (image.splitOnP (· == '+')).mapM number? }

end CodeRun

structure CodeMap where
  runs : List CodeRun
  deriving DecidableEq, Repr

namespace CodeMap

/-- The map whose runs stand in a text, with blanks between them. -/
def ofText (text : String) : CodeMap where
  runs := (Split.runs Char.isWhitespace text.toList).filterMap CodeRun.ofWord?

/-- What a code point stands for, if the map has it. -/
def image? (map : CodeMap) (code : Nat) : Option (List Nat) :=
  map.runs.findSome? (·.image? code)

def source? (map : CodeMap) (image : List Nat) : Option Nat :=
  map.runs.findSome? (·.source? image)

end CodeMap

end Retrieval
