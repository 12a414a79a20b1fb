import Retrieval.Chunk
import Retrieval.Collection
import Retrieval.Generator
import Retrieval.Graph.Cluster
import Retrieval.Index.Upsert

/-!
# Corpora

A corpus keeps documents, their chunks and a graph, and with an embedder also an
index over the chunks.  The indices write to files of their own, named for the
index and placed by the storage file of the options.
-/

namespace Retrieval

structure CorpusOptions where
  workingDirectory : Path := ⟨"./nano_graphrag_cache"⟩
  chunkSize : Nat := 1200
  chunkOverlap : Nat := 100
  /-- Naive queries are wanted, and so an index over the chunks. -/
  indexesChunks : Bool := true
  /-- An index over entities is wanted. -/
  indexesEntities : Bool := false
  index : IndexOptions := {}
  deriving DecidableEq

structure Corpus (σ : Type) where
  options : CorpusOptions
  tokenizer : Tokenizer
  generator : Option (Generator σ)
  documents : Collection Document
  chunks : Collection Chunk
  reports : Collection CommunityReport
  graph : Graph
  chunkIndex : Option (Index σ)
  entityIndex : Option (Index σ)

namespace Corpus

variable {σ : Type}

def chunkIndexName : String := "chunks"

def entityIndexName : String := "entities"

/-- The snapshot file of an index, from the storage file of the options. -/
def indexFile (workingDirectory : Path) (indexName : String) (storage : Path) : Path :=
  let base := workingDirectory.join storage
  base.withFileName (indexName ++ "_" ++ base.fileName?.getD IndexOptions.defaultFileName)

def indexOptions (options : CorpusOptions) (indexName : String) : IndexOptions :=
  { options.index with
    file := indexFile options.workingDirectory indexName options.index.file }

/-- An index of a corpus, if there is an embedder for it and it is wanted. -/
def startIndex (options : CorpusOptions) (embedder : Option (Embedder σ)) (files : FileStore)
    (indexName : String) (isWanted : Bool) : Except Failure (Option (Index σ)) :=
  match embedder with
  | none => .ok none
  | some embedder =>
      if isWanted then
        (Index.start indexName (indexOptions options indexName) embedder files).map some
      else .ok none

/-- A corpus without documents; its indices hold what their snapshots hold. -/
def opened (options : CorpusOptions) (tokenizer : Tokenizer) (embedder : Option (Embedder σ))
    (files : FileStore) : Except Failure (Corpus σ) := do
  let chunkIndex ← startIndex options embedder files chunkIndexName options.indexesChunks
  let entityIndex ← startIndex options embedder files entityIndexName options.indexesEntities
  return {
    options
    tokenizer
    generator := none
    documents := Collection.empty "full_docs"
    chunks := Collection.empty "text_chunks"
    reports := Collection.empty "community_reports"
    graph := Graph.empty "chunk_entity_relation"
    chunkIndex
    entityIndex }

/-- A new corpus in its working directory, which is made if it is not there. -/
def start (options : CorpusOptions) (tokenizer : Tokenizer) (embedder : Option (Embedder σ))
    (files : FileStore) : Except Failure (Corpus σ) × FileStore :=
  match Window.stride options.chunkSize options.chunkOverlap with
  | .error failure => (.error failure, files)
  | .ok _ =>
      match files.makeDirectories options.workingDirectory with
      | (false, files) => (.error .io, files)
      | (true, files) => (opened options tokenizer embedder files, files)

def withGenerator (corpus : Corpus σ) (generator : Option (Generator σ)) : Corpus σ :=
  { corpus with generator }

def withTokenizer (corpus : Corpus σ) (tokenizer : Tokenizer) : Corpus σ :=
  { corpus with tokenizer }

def withWindows (corpus : Corpus σ) (chunkSize chunkOverlap : Nat) : Except Failure (Corpus σ) := do
  let _ ← Window.stride chunkSize chunkOverlap
  return { corpus with options := { corpus.options with chunkSize, chunkOverlap } }

/-- The snapshots of the indices, the chunk index first. -/
def save (corpus : Corpus σ) (files : FileStore) : Except Failure Unit × FileStore :=
  saveEach (corpus.chunkIndex.toList ++ corpus.entityIndex.toList) files
where
  saveEach : List (Index σ) → FileStore → Except Failure Unit × FileStore
    | [], files => (.ok (), files)
    | index :: rest, files =>
        match index.save files with
        | (.error failure, files) => (.error failure, files)
        | (.ok _, files) => saveEach rest files

end Corpus

end Retrieval
