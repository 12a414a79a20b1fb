import Retrieval.Table

/-!
# Links

A link is an ordered pair of node identifiers.  Of the two links between a pair
of nodes the canonical one starts at the smaller identifier, so an undirected
edge is one canonical link (`Link.canonical_comm`).
-/

namespace Retrieval

structure Link where
  source : String
  target : String
  deriving DecidableEq, Repr

namespace Link

/-- Links ascend by their source, and of one source by their target. -/
instance : Ord Link where
  compare := compareLex (compareOn source) (compareOn target)

instance : Std.TransOrd Link :=
  inferInstanceAs (Std.TransCmp (compareLex (compareOn source) (compareOn target)))

instance : Std.LawfulEqOrd Link where
  compare_self := by
    intro link
    have reflexive : Std.ReflCmp (compareLex (compareOn source) (compareOn target)) :=
      inferInstance
    exact reflexive.compare_self
  eq_of_compare := by
    intro first second same
    obtain ⟨source, target⟩ := first
    obtain ⟨otherSource, otherTarget⟩ := second
    have parts : (compare source otherSource).then (compare target otherTarget) = .eq := same
    rw [Ordering.then_eq_eq] at parts
    rw [Std.LawfulEqCmp.compare_eq_iff_eq, Std.LawfulEqCmp.compare_eq_iff_eq] at parts
    rw [parts.1, parts.2]

def reverse (link : Link) : Link := ⟨link.target, link.source⟩

/-- The link between two nodes that starts at the smaller identifier. -/
def canonical (source target : String) : Link :=
  if source ≤ target then ⟨source, target⟩ else ⟨target, source⟩

theorem canonical_comm (source target : String) :
    canonical source target = canonical target source := by
  unfold canonical
  by_cases forward : source ≤ target <;> by_cases backward : target ≤ source
  · simp [String.le_antisymm forward backward]
  · simp [forward, backward]
  · simp [forward, backward]
  · exact absurd (String.le_total source target) (by simp [forward, backward])

end Link

end Retrieval
