import Retrieval.Index.Basic
import Retrieval.Sorting

/-!
# Search

A query is embedded once and compared with every record.  Matches come by
falling score, and by rising identifier where neither score is above the other.
Scores that are no numbers make that no order, and sorting may break off.
-/

namespace Retrieval

structure Match where
  id : String
  score : Float32
  shown : Properties
  deriving DecidableEq

namespace Match

def fieldNames : List String := ["id", "score", "metadata"]

def toJson (found : Match) : Json :=
  .record
    [("id", .ofText found.id), ("score", .ofSingle found.score),
      ("metadata", found.shown.toJson)]

def ofJson? (json : Json) : Option Match := do
  let members ← json.members? fieldNames
  return {
    id := ← members.required? "id" Json.text?
    score := ← members.required? "score" Json.single?
    shown := ← members.required? "metadata" Json.textTable? }

/-- The first match may stand before the second one. -/
def precedes (first second : Match) : Bool :=
  if second.score < first.score then true
  else if first.score < second.score then false
  else first.id ≤ second.id

end Match

namespace Index

variable {σ : Type}

/-- A threshold that is not above zero keeps every score, also one that is no number. -/
def keeps (options : IndexOptions) (found : Match) : Bool :=
  options.threshold ≤ 0.0 || options.threshold ≤ found.score

/-- The matches that a query ranks, in the order in which the records are visited. -/
def candidates (options : IndexOptions) (query : Embedding)
    (records : List (String × StoredVector)) : List Match :=
  (records.map fun (id, stored) =>
    ⟨id, options.metric.score query stored.embedding, stored.shown⟩).filter (keeps options)

/-- The best matches among some records, the best first.  Where sorting breaks off there are none
to speak of, and the query does not end (`ends`). -/
def ranked (options : IndexOptions) (query : Embedding) (limit : Nat)
    (records : List (String × StoredVector)) : List Match :=
  ((Sorting.stable? Match.precedes (candidates options query records)).getD []).take limit

/-- The embedding of a query; an embedder that gives none stands for zeros. -/
def queryEmbedding (index : Index σ) (reply : List Embedding) : Except Failure Embedding :=
  let embedding := reply.headD (Embedding.zeros index.dimension)
  if embedding.length = index.dimension then .ok embedding
  else .error (.dimensionMismatch index.dimension embedding.length)

/-- The matches of a query text; an index without records is not asked. -/
def query (index : Index σ) (text : String) (limit : Nat) (outside : σ) :
    Except Failure (List Match) × σ :=
  if index.dimension = 0 ∨ index.records.isEmpty then (.ok [], outside)
  else
    let (reply, outside) := index.embedder.embed [text] outside
    let found := do
      let embedding ← index.queryEmbedding (← reply)
      return ranked index.options embedding limit index.records.entries
    (found, outside)

/-- A query that visits the records in a given order does not break off. -/
def ends (index : Index σ) (order : List (String × StoredVector)) (text : String) (outside : σ) :
    Bool :=
  if index.dimension = 0 ∨ index.records.isEmpty then true
  else
    match (index.embedder.embed [text] outside).1.bind index.queryEmbedding with
    | .error _ => true
    | .ok embedding =>
        (Sorting.stable? Match.precedes (candidates index.options embedding order)).isSome

end Index

end Retrieval
