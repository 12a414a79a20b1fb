import Retrieval.Corpus.Basic

/-!
# Insertion

The documents of a call are cut and indexed together, a text that occurs again
only once.  The collections change last, after the index has taken the chunks.
-/

namespace Retrieval

/-- What an insertion was made of. -/
structure InsertSummary where
  documents : Nat
  chunks : Nat
  deriving DecidableEq, Repr

namespace Corpus

variable {σ : Type}

/-- The documents of some texts, of equal identifiers the first one. -/
def distinctDocuments (texts : List String) : List Document :=
  (texts.map Document.ofText).eraseDupsBy fun first second => first.id == second.id

def recordOf (chunk : Chunk) : Properties :=
  Table.ofList [("content", chunk.content), ("full_doc_id", chunk.document.text)]

def batchOf (chunks : Table String Chunk) : Table String Properties :=
  chunks.map fun _ chunk => recordOf chunk

/-- The chunks handed to the chunk index, if there is one. -/
def indexChunks (corpus : Corpus σ) (chunks : Table String Chunk) (host : Host σ) :
    Except Failure Unit × Corpus σ × Host σ :=
  match corpus.chunkIndex with
  | none => (.ok (), corpus, host)
  | some index =>
      let (outcome, grown, host) := index.upsert (batchOf chunks) host
      (outcome, { corpus with chunkIndex := some grown }, host)

/-- The chunks and the documents added to the collections. -/
def store (corpus : Corpus σ) (documents : List Document) (chunks : Table String Chunk) :
    Corpus σ :=
  { corpus with
    chunks := corpus.chunks.upsert chunks
    documents := corpus.documents.upsert
      (Table.ofList (documents.map fun document => (document.id.text, document))) }

/-- Some texts made part of the corpus. -/
def insert (corpus : Corpus σ) (texts : List String) (host : Host σ) :
    Except Failure InsertSummary × Corpus σ × Host σ :=
  let documents := distinctDocuments texts
  if documents.isEmpty then (.ok ⟨0, 0⟩, corpus, host)
  else
    match Chunk.tableOf corpus.tokenizer corpus.options.chunkSize corpus.options.chunkOverlap
        documents with
    | .error failure => (.error failure, corpus, host)
    | .ok chunks =>
        match corpus.indexChunks chunks host with
        | (.error failure, indexed, host) => (.error failure, indexed, host)
        | (.ok _, indexed, host) =>
            (.ok ⟨documents.length, chunks.size⟩, indexed.store documents chunks, host)

end Corpus

end Retrieval
