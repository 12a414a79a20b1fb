import Retrieval.Generator
import Retrieval.Remote.Service

/-!
# Remote generators

The question goes to the service as input, the instructions beside it.  The
completion is looked for in three places of the answer, and is empty if it is in
none of them.
-/

namespace Retrieval

namespace Generator

open Http (Network)

def directText? (answer : Json) : Option String := do (← answer.field? "output_text").text?

/-- The first text among the contents of the first output. -/
def outputText? (answer : Json) : Option String := do
  let first ← (← answer.field? "output").item? 0
  (← (← first.field? "content").items?).findSome? fun content => do
    (← content.field? "text").text?

/-- A member of a container: the item at a place, or the value of the key that writes the place. -/
def member? (place : Nat) : Json → Option Json
  | .array items => items[place]?
  | other => other.field? (toString place)

def choiceText? (answer : Json) : Option String := do
  let first ← member? 0 (← answer.field? "choices")
  (← (← first.field? "message").field? "content").text?

def ofAnswer (answer : Json) : String :=
  (((directText? answer).or (outputText? answer)).or (choiceText? answer)).getD ""

def requestBody (model question instructions : String) : Json :=
  .record
    ([("model", .ofText model), ("input", .ofText question)] ++
      if instructions = "" then [] else [("instructions", .ofText instructions)])

def remote (service : Service) (model : String) : Generator Network where
  model := model
  generate := fun question instructions network =>
    let (answer, network) := service.call (requestBody model question instructions) network
    (answer.map ofAnswer, network)

end Generator

end Retrieval
