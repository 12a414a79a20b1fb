import Retrieval.Corpus.Basic
import Retrieval.Query

/-!
# Settings

What a settings file says, section by section.  Every field has a default, so an
empty file stands for settings that work without a network.
-/

namespace Retrieval

namespace Settings

structure Storage where
  workingDirectory : Path := ⟨"./nano_graphrag_cache"⟩
  deriving DecidableEq, Repr

structure Chunking where
  size : Nat := 1200
  overlap : Nat := 100
  tokenizer : String := "tiktoken"
  deriving DecidableEq, Repr

structure Vectors where
  metric : String := "cosine"
  threshold : Float32 := 0.2
  backend : String := "memory"
  file : Option Path := none
  autoSave : Bool := false
  deriving DecidableEq

/-- Where remote services are found, unless settings say otherwise. -/
def defaultBaseUrl : String := "https://api.openai.com/v1"

/-- How many seconds a remote service has to answer. -/
def defaultTimeout : Nat := 60

structure Embeddings where
  provider : String := "hash"
  model : String := "text-embedding-3-small"
  dimension : Nat := Embedder.defaultDimension
  tokenLimit : Nat := Embedder.defaultTokenLimit
  baseUrl : String := defaultBaseUrl
  timeout : Nat := defaultTimeout
  deriving DecidableEq, Repr

structure Generation where
  provider : String := "disabled"
  model : String := "gpt-4.1"
  baseUrl : String := defaultBaseUrl
  timeout : Nat := defaultTimeout
  deriving DecidableEq, Repr

structure Modes where
  naive : Bool := true
  localGraph : Bool := false
  deriving DecidableEq, Repr

structure Queries where
  mode : String := "naive"
  matchLimit : Nat := 20
  contextBudget : Nat := 12000
  responseType : String := "Multiple Paragraphs"
  deriving DecidableEq, Repr

structure Logging where
  level : String := "warn"
  deriving DecidableEq, Repr

def disabled : String := "disabled"

/-- Some provider is named, whether it is known or not. -/
def Generation.isEnabled (generation : Generation) : Bool := generation.provider != disabled

end Settings

structure Settings where
  storage : Settings.Storage := {}
  chunking : Settings.Chunking := {}
  vectors : Settings.Vectors := {}
  embeddings : Settings.Embeddings := {}
  generation : Settings.Generation := {}
  modes : Settings.Modes := {}
  queries : Settings.Queries := {}
  logging : Settings.Logging := {}
  deriving DecidableEq

namespace Settings

/-- The options of a corpus with these settings. -/
def corpusOptions (settings : Settings) : Except Failure CorpusOptions := do
  let metric ← Metric.ofName settings.vectors.metric
  let backend ← Backend.ofName settings.vectors.backend
  let absent : IndexOptions := {}
  return {
    workingDirectory := settings.storage.workingDirectory
    chunkSize := settings.chunking.size
    chunkOverlap := settings.chunking.overlap
    indexesChunks := settings.modes.naive
    indexesEntities := settings.modes.localGraph
    index := {
      metric
      threshold := settings.vectors.threshold
      backend
      file := settings.vectors.file.getD absent.file
      autoSave := settings.vectors.autoSave
      shownFields := ["full_doc_id"] } }

def queryOptions (settings : Settings) : Except Failure QueryOptions := do
  let mode ← QueryMode.ofName settings.queries.mode
  return {
    mode
    matchLimit := settings.queries.matchLimit
    contextBudget := settings.queries.contextBudget
    responseType := settings.queries.responseType }

end Settings

end Retrieval
