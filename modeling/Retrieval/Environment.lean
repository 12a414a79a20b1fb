import Retrieval.Failure
import Retrieval.Vocabulary

/-!
# The environment

What a run finds around it: the variables that are looked at, which are the key
for remote services and two that decide what is logged, and the vocabulary that
the program has.
-/

namespace Retrieval

structure Environment where
  key : Option String := none
  debug : Option String := none
  logFilter : Option String := none
  vocabulary : Vocabulary.Supply := .absent

namespace Environment

def keyVariable : String := "OPENAI_API_KEY"

def debugVariable : String := "NANO_GRAPHRAG_DEBUG"

def logFilterVariable : String := "RUST_LOG"

/-- The environment in which variables have some values, of a program without a vocabulary. -/
def ofVariables (value? : String → Option String) : Environment where
  key := value? keyVariable
  debug := value? debugVariable
  logFilter := value? logFilterVariable

/-- The key, which has to be there; an empty one is none. -/
def requireKey (environment : Environment) : Except Failure String :=
  match environment.key.filter (· != "") with
  | some key => .ok key
  | none => .error (.configuration (.missingVariable keyVariable))

/-- Everything is to be logged, whatever else is said. -/
def forcesDebug (environment : Environment) : Bool :=
  environment.debug.any fun value => value == "1" || value.toLower == "true"

end Environment

end Retrieval
