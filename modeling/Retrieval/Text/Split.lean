/-!
# Splitting at separators

A list is cut at the members that separate.  The pieces that hold something are
its runs: a run has no separator in it, and no run is empty.
-/

namespace Retrieval

namespace Split

variable {α : Type}

/-- The longest stretches without a separator, in order. -/
def runs (separates : α → Bool) (items : List α) : List (List α) :=
  (items.splitOnP separates).filter fun piece => !piece.isEmpty

@[simp] theorem runs_nil (separates : α → Bool) : runs separates [] = [] := rfl

theorem ne_nil_of_mem_runs {separates : α → Bool} {items run : List α}
    (member : run ∈ runs separates items) : run ≠ [] := by
  intro empty
  simp [runs, empty] at member

end Split

end Retrieval
