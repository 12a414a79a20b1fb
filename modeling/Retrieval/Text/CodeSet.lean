/-!
# Sets of code points

A set of characters is given by the code points at which membership changes, in
ascending order.  A character is a member if an odd number of changes lies at or
before it.
-/

namespace Retrieval

structure CodeSet where
  changes : List Nat
  deriving DecidableEq, Repr

namespace CodeSet

def contains (set : CodeSet) (character : Char) : Bool :=
  set.changes.countP (· ≤ character.toNat) % 2 == 1

end CodeSet

end Retrieval
