import Retrieval.Embedder
import Retrieval.Index.Options

/-!
# Vector indices

An index binds identifiers to embeddings and to the fields that its matches
show.  It has a dimension, which is zero until the first embedding comes in,
unless the embedder knows its own.
-/

namespace Retrieval

structure StoredVector where
  embedding : Embedding
  shown : Properties
  deriving DecidableEq

structure Index (σ : Type) where
  name : String
  options : IndexOptions
  embedder : Embedder σ
  dimension : Nat
  records : Table String StoredVector

namespace Index

variable {σ : Type}

def fresh (name : String) (options : IndexOptions) (embedder : Embedder σ) : Index σ :=
  ⟨name, options, embedder, embedder.dimension, Table.empty⟩

def contentField : String := "content"

end Index

end Retrieval
