import Retrieval.Index.Snapshot

/-!
# Adding records

A batch of records is embedded in one call, by ascending identifier.  An answer
with the wrong number of embeddings stands for zeros.  The whole batch is
checked before any record of it is stored.
-/

namespace Retrieval

namespace Index

variable {σ : Type}

/-- The texts that a batch embeds; a record without content has the empty text. -/
def contents (batch : Table String Properties) : List String :=
  batch.values.map fun record => (record.get? contentField).getD ""

/-- The length of an embedding that stands for a missing one. -/
def fallbackDimension (index : Index σ) : Nat :=
  if 0 < index.dimension then index.dimension else index.embedder.dimension

def aligned (index : Index σ) (count : Nat) (reply : List Embedding) : List Embedding :=
  if reply.length = count then reply
  else List.replicate count (Embedding.zeros index.fallbackDimension)

/-- The dimension after some embeddings; while it is zero the next embedding sets it. -/
def sized : Nat → List Embedding → Except Failure Nat
  | dimension, [] => .ok dimension
  | dimension, embedding :: rest =>
      if dimension = 0 then sized embedding.length rest
      else if embedding.length = dimension then sized dimension rest
      else .error (.dimensionMismatch dimension embedding.length)

/-- The fields of a record that its matches show. -/
def shownOf (options : IndexOptions) (record : Properties) : Properties :=
  Table.ofList (options.shownFields.filterMap fun field =>
    (record.get? field).map fun value => (field, value))

/-- The stored form of a batch, embedding by embedding. -/
def storedBatch (options : IndexOptions) (batch : Table String Properties)
    (embeddings : List Embedding) : List (String × StoredVector) :=
  (batch.entries.zip embeddings).map fun ((id, record), embedding) =>
    (id, ⟨embedding, shownOf options record⟩)

/-- The index after the embedder's answer to a batch. -/
def accept (index : Index σ) (batch : Table String Properties) (reply : List Embedding) :
    Except Failure (Index σ) := do
  let embeddings := index.aligned batch.size reply
  let dimension ← sized index.dimension embeddings
  return { index with
    dimension
    records := index.records.insertMany (storedBatch index.options batch embeddings) }

/-- A batch embedded and stored, and the snapshot written if the index saves by itself. -/
def upsert (index : Index σ) (batch : Table String Properties) (host : Host σ) :
    Except Failure Unit × Index σ × Host σ :=
  if batch.isEmpty then (.ok (), index, host)
  else
    let (reply, outside) := index.embedder.embed (contents batch) host.outside
    let host := { host with outside }
    match reply.bind (index.accept batch) with
    | .error failure => (.error failure, index, host)
    | .ok grown =>
        if grown.options.autoSave then
          let (saved, files) := grown.save host.files
          (saved, grown, { host with files })
        else (.ok (), grown, host)

end Index

end Retrieval
