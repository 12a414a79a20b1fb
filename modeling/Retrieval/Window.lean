import Retrieval.Failure

/-!
# Token windows

A window is a stretch of a token sequence.  Consecutive windows of a plan start
one stride apart, the stride being the window size less the overlap, and the
last windows end where the sequence ends.
-/

namespace Retrieval

structure Window where
  start : Nat
  length : Nat
  deriving DecidableEq, Repr

namespace Window

/-- The distance between the starts of two windows in a row. -/
def stride (size overlap : Nat) : Except Failure Nat :=
  if overlap < size then .ok (size - overlap)
  else .error (.configuration (.stride size overlap))

/-- The windows from one start on, each `step` after the one before it. -/
def stepping (count size step : Nat) (advances : 0 < step) (start : Nat) : List Window :=
  if start < count then
    ⟨start, min size (count - start)⟩ :: stepping count size step advances (start + step)
  else []
termination_by count - start

/-- The windows over a sequence of `count` tokens. -/
def plan (count size overlap : Nat) : Except Failure (List Window) :=
  if smaller : overlap < size then
    .ok (stepping count size (size - overlap) (Nat.sub_pos_of_lt smaller) 0)
  else .error (.configuration (.stride size overlap))

/-- The members of a sequence that lie in the window. -/
def slice {α : Type} (window : Window) (items : List α) : List α :=
  (items.drop window.start).take window.length

end Window

end Retrieval
