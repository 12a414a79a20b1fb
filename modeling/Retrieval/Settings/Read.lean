import Retrieval.Complaint
import Retrieval.FileStore
import Retrieval.Settings.Basic
import Retrieval.Toml.Document
import Retrieval.Toml.Record

/-!
# Reading settings

Settings are read from a TOML document and then checked; the first check that
fails is the complaint.  Without a file the defaults hold.
-/

namespace Retrieval

namespace Settings

def Storage.ofToml? (toml : Toml) : Option Storage := do
  let members ← toml.members? ["working_dir"]
  let absent : Storage := {}
  return {
    workingDirectory := ← members.field? "working_dir" absent.workingDirectory
      fun value => value.text?.map Path.mk }

def Chunking.ofToml? (toml : Toml) : Option Chunking := do
  let members ← toml.members? ["chunk_token_size", "chunk_overlap_token_size", "tokenizer"]
  let absent : Chunking := {}
  return {
    size := ← members.field? "chunk_token_size" absent.size Toml.natural?
    overlap := ← members.field? "chunk_overlap_token_size" absent.overlap Toml.natural?
    tokenizer := ← members.field? "tokenizer" absent.tokenizer Toml.text? }

def Vectors.ofToml? (toml : Toml) : Option Vectors := do
  let members ← toml.members?
    ["metric", "query_better_than_threshold", "storage_backend", "storage_file", "auto_save"]
  let absent : Vectors := {}
  return {
    metric := ← members.field? "metric" absent.metric Toml.text?
    threshold := ← members.field? "query_better_than_threshold" absent.threshold Toml.single?
    backend := ← members.field? "storage_backend" absent.backend Toml.text?
    file := ← members.field? "storage_file" absent.file
      fun value => value.text?.map fun path => some ⟨path⟩
    autoSave := ← members.field? "auto_save" absent.autoSave Toml.boolean? }

def Embeddings.ofToml? (toml : Toml) : Option Embeddings := do
  let members ← toml.members?
    ["provider", "model", "dims", "max_token_size", "base_url", "timeout_secs"]
  let absent : Embeddings := {}
  return {
    provider := ← members.field? "provider" absent.provider Toml.text?
    model := ← members.field? "model" absent.model Toml.text?
    dimension := ← members.field? "dims" absent.dimension Toml.natural?
    tokenLimit := ← members.field? "max_token_size" absent.tokenLimit Toml.natural?
    baseUrl := ← members.field? "base_url" absent.baseUrl Toml.text?
    timeout := ← members.field? "timeout_secs" absent.timeout Toml.natural? }

def Generation.ofToml? (toml : Toml) : Option Generation := do
  let members ← toml.members? ["provider", "model", "base_url", "timeout_secs"]
  let absent : Generation := {}
  return {
    provider := ← members.field? "provider" absent.provider Toml.text?
    model := ← members.field? "model" absent.model Toml.text?
    baseUrl := ← members.field? "base_url" absent.baseUrl Toml.text?
    timeout := ← members.field? "timeout_secs" absent.timeout Toml.natural? }

def Modes.ofToml? (toml : Toml) : Option Modes := do
  let members ← toml.members? ["enable_naive", "enable_local"]
  let absent : Modes := {}
  return {
    naive := ← members.field? "enable_naive" absent.naive Toml.boolean?
    localGraph := ← members.field? "enable_local" absent.localGraph Toml.boolean? }

def Queries.ofToml? (toml : Toml) : Option Queries := do
  let members ← toml.members? ["mode", "top_k", "naive_max_token_for_text_unit", "response_type"]
  let absent : Queries := {}
  return {
    mode := ← members.field? "mode" absent.mode Toml.text?
    matchLimit := ← members.field? "top_k" absent.matchLimit Toml.natural?
    contextBudget := ← members.field? "naive_max_token_for_text_unit" absent.contextBudget
      Toml.natural?
    responseType := ← members.field? "response_type" absent.responseType Toml.text? }

def Logging.ofToml? (toml : Toml) : Option Logging := do
  let members ← toml.members? ["level"]
  let absent : Logging := {}
  return { level := ← members.field? "level" absent.level Toml.text? }

def sectionNames : List String :=
  ["storage", "chunking", "vector", "embedding", "llm", "rag", "query", "logging"]

/-- A section that is not there has its defaults. -/
def ofToml? (toml : Toml) : Option Settings := do
  let members ← toml.members? sectionNames
  return {
    storage := ← members.field? "storage" {} Storage.ofToml?
    chunking := ← members.field? "chunking" {} Chunking.ofToml?
    vectors := ← members.field? "vector" {} Vectors.ofToml?
    embeddings := ← members.field? "embedding" {} Embeddings.ofToml?
    generation := ← members.field? "llm" {} Generation.ofToml?
    modes := ← members.field? "rag" {} Modes.ofToml?
    queries := ← members.field? "query" {} Queries.ofToml?
    logging := ← members.field? "logging" {} Logging.ofToml? }

/-- The check that stops the others when it fails. -/
def refuseIf (isWrong : Prop) [Decidable isWrong] (fault : SettingsFault) :
    Except SettingsFault Unit :=
  if isWrong then .error fault else .ok ()

/-- The checks of the windows and the tokenizer. -/
def checkChunking (chunking : Chunking) : Except SettingsFault Unit := do
  refuseIf (chunking.size = 0) .zeroChunkSize
  refuseIf (chunking.size ≤ chunking.overlap) (.overlap chunking.overlap chunking.size)
  refuseIf (chunking.tokenizer ∉ ["simple", "tiktoken"]) (.tokenizer chunking.tokenizer)

def checkVectors (vectors : Vectors) : Except SettingsFault Unit := do
  let _ ← (Metric.ofName vectors.metric).mapError .metric
  let _ ← (Backend.ofName vectors.backend).mapError .backend

def checkEmbeddings (embeddings : Embeddings) : Except SettingsFault Unit := do
  refuseIf (embeddings.provider ∉ [disabled, "hash", "openai"]) (.embedder embeddings.provider)
  refuseIf (embeddings.provider = "hash" ∧ embeddings.dimension = 0) .zeroDimension

def checkGeneration (generation : Generation) : Except SettingsFault Unit :=
  refuseIf (generation.provider ∉ [disabled, "openai"]) (.generator generation.provider)

def checkQueries (queries : Queries) : Except SettingsFault Unit := do
  refuseIf (queries.matchLimit < 1) .zeroMatchLimit
  let _ ← (QueryMode.ofName queries.mode).mapError .mode

def check (settings : Settings) : Except SettingsFault Unit := do
  checkChunking settings.chunking
  checkVectors settings.vectors
  checkEmbeddings settings.embeddings
  checkGeneration settings.generation
  checkQueries settings.queries
  let _ ← (LogLevel.ofText settings.logging.level).mapError .logLevel

def checked (settings : Settings) : Except Complaint Settings := do
  settings.check.mapError .settings
  return settings

def read? (text : String) : Option Settings := do ofToml? (← Toml.read? text)

def load (files : FileStore) (file : Path) : Except Complaint Settings :=
  match files.readText? file with
  | none => .error (.unreadableSettings file)
  | some text =>
      match read? text with
      | none => .error .malformedSettings
      | some settings => settings.checked

/-- The settings of a file, or the defaults if it is not there. -/
def loadOrDefault (files : FileStore) (file : Path) : Except Complaint Settings :=
  if files.contains file then load files file else ({} : Settings).checked

end Settings

end Retrieval
