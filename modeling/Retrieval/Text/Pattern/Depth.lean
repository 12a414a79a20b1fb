/-!
# Depths of patterns

Patterns are nested: groups, sets, repetitions, and several parts side by side
each take one level.  What is nested too deeply is no pattern.
-/

namespace Retrieval

namespace Pattern

def depthLimit : Nat := 250

/-- Parts side by side: how many they are, and the depth of the deepest one. -/
structure Row where
  count : Nat := 0
  deepest : Nat := 0
  deriving DecidableEq, Repr

namespace Row

def add (row : Row) (depth : Nat) : Row := ⟨row.count + 1, max row.deepest depth⟩

/-- A single part is as deep alone as in its row. -/
def depth (row : Row) : Nat := if row.count < 2 then row.deepest else row.deepest + 1

end Row

end Pattern

end Retrieval
