import Retrieval.Embedder
import Retrieval.Remote.Service

/-!
# Remote embedders

One request carries all texts of a batch.  The embeddings are taken in the order
of the answer; what is no embedding there is passed over.
-/

namespace Retrieval

namespace Embedder

open Http (Network)

/-- An element of an embedding; what is no number counts as zero. -/
def elementOf (json : Json) : Float32 := narrow (json.double?.getD 0.0)

/-- The embedding that an item of an answer holds. -/
def ofItem? (item : Json) : Option Embedding := do
  return (← (← item.field? "embedding").items?).map elementOf

def ofAnswer (answer : Json) : List Embedding :=
  (((answer.field? "data").bind Json.items?).getD []).filterMap ofItem?

def requestBody (model : String) (texts : List String) : Json :=
  .record
    [("model", .ofText model), ("input", .array (texts.map Json.ofText)),
      ("encoding_format", .ofText "float")]

/-- The embedder that asks a service; nothing is asked for an empty batch. -/
def remote (service : Service) (model : String) (dimension tokenLimit : Nat) :
    Embedder Network where
  model := model
  dimension := dimension
  tokenLimit := tokenLimit
  embed := fun texts network =>
    if texts.isEmpty then (.ok [], network)
    else
      let (answer, network) := service.call (requestBody model texts) network
      (answer.map ofAnswer, network)

end Embedder

end Retrieval
