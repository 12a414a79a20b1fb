import Retrieval.Environment
import Retrieval.Remote.Embedder
import Retrieval.Remote.Generator
import Retrieval.Settings.Basic

/-!
# Providers

The embedder and the generator that settings name.  Only a remote one needs a
key, and a name that stands for none gives none.
-/

namespace Retrieval

open Http (Network)

namespace Settings

def remoteProvider : String := "openai"

/-- The name of the provider that needs no service. -/
def hashProvider : String := "hash"

namespace Embeddings

def embedder? (embeddings : Embeddings) (environment : Environment) :
    Except Failure (Option (Embedder Network)) :=
  if embeddings.provider = hashProvider then
    .ok (some (Embedder.hashed Network embeddings.dimension embeddings.tokenLimit))
  else if embeddings.provider = remoteProvider then do
    let service := Service.below embeddings.baseUrl "embeddings" (← environment.requireKey)
    return some (Embedder.remote service embeddings.model embeddings.dimension
      embeddings.tokenLimit)
  else .ok none

end Embeddings

namespace Generation

def generator? (generation : Generation) (environment : Environment) :
    Except Failure (Option (Generator Network)) :=
  if generation.provider = remoteProvider then do
    let service := Service.below generation.baseUrl "responses" (← environment.requireKey)
    return some (Generator.remote service generation.model)
  else .ok none

end Generation

end Settings

end Retrieval
