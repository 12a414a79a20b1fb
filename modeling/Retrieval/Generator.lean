import Retrieval.Failure

/-!
# Generators

A generator completes a question under instructions.  Like an embedder it may
depend on and change the world outside.  An empty text is an answer.
-/

namespace Retrieval

structure Generator (σ : Type) where
  model : String
  /-- The completion of a question, given first, under instructions. -/
  generate : String → String → σ → Except Failure String × σ

end Retrieval
