import Retrieval.Complaint
import Retrieval.Query

/-!
# Overrides

What a command line says about a query, over the options from the settings.
-/

namespace Retrieval

structure Overrides where
  mode : Option String := none
  matchLimit : Option Nat := none
  contextBudget : Option Nat := none
  contextOnly : Bool := false
  responseType : Option String := none
  deriving DecidableEq, Repr

namespace Overrides

def modeOver (overrides : Overrides) (mode : QueryMode) : Except Complaint QueryMode :=
  match overrides.mode with
  | none => .ok mode
  | some name => (QueryMode.ofName name).mapError .failure

def matchLimitOver (overrides : Overrides) (limit : Nat) : Except Complaint Nat :=
  match overrides.matchLimit with
  | none => .ok limit
  | some 0 => .error .zeroMatchLimit
  | some wanted => .ok wanted

/-- The options with what is overridden; the context can be asked for but not refused. -/
def apply (overrides : Overrides) (options : QueryOptions) : Except Complaint QueryOptions := do
  let mode ← overrides.modeOver options.mode
  let matchLimit ← overrides.matchLimitOver options.matchLimit
  return { options with
    mode
    matchLimit
    contextBudget := overrides.contextBudget.getD options.contextBudget
    contextOnly := options.contextOnly || overrides.contextOnly
    responseType := overrides.responseType.getD options.responseType }

end Overrides

end Retrieval
