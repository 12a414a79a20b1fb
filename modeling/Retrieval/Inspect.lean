import Retrieval.Corpus.Basic
import Retrieval.Text.Shapeless

/-!
# Inspection

The texts that show an index or a corpus to a developer: nested records with
named fields, quoted strings, and numbers with the shortest digits that read
back.
-/

namespace Retrieval

namespace Inspect

def record (name : String) (fields : List (String × String)) : String :=
  name ++ " \x7b " ++
    String.intercalate ", " (fields.map fun field => field.1 ++ ": " ++ field.2) ++ " \x7d"

def boolean (value : Bool) : String := if value then "true" else "false"

def list (items : List String) : String := "[" ++ String.intercalate ", " items ++ "]"

def optional : Option String → String
  | none => "None"
  | some text => "Some(" ++ text ++ ")"

/-- A character inside quotation marks; one without a shape is written by its number. -/
def escape : Char → List Char
  | '\x00' => ['\\', '0']
  | '\t' => ['\\', 't']
  | '\r' => ['\\', 'r']
  | '\n' => ['\\', 'n']
  | '\\' => ['\\', '\\']
  | '"' => ['\\', '"']
  | other =>
      if Text.shapeless.contains other then
        ['\\', 'u', '\x7b'] ++ Nat.toDigits 16 other.toNat ++ ['\x7d']
      else [other]

def text (text : String) : String :=
  String.ofList ('"' :: (text.toList.flatMap escape ++ ['"']))

def path (path : Path) : String := text path.text

/-- From this number of digits before the point on, a number has an exponent. -/
def widestPoint : Int := 16

/-- So has a number with as many zeros behind the point. -/
def deepestPoint : Int := -4

/-- A positive decimal number, with an exponent if it is very large or very small. -/
def decimal (value : Decimal) : String :=
  let digits := Nat.toDigits 10 value.digits
  let point : Int := digits.length + value.exponent
  if deepestPoint < point ∧ point ≤ widestPoint then
    let whole := digits.take point.toNat ++ List.replicate value.exponent.toNat '0'
    let fraction := List.replicate (-point).toNat '0' ++ digits.drop point.toNat
    String.ofList ((if whole = [] then ['0'] else whole) ++ '.' ::
      (if fraction = [] then ['0'] else fraction))
  else
    String.ofList (digits.take 1 ++ (if digits.length = 1 then [] else '.' :: digits.drop 1)) ++
      "e" ++ toString (point - 1)

/-- Of two shortest decimals equally near the larger one is taken. -/
def single (value : Float32) : String :=
  match Parts.ofSingle value with
  | .notANumber => "NaN"
  | .infinite negative => if negative then "-inf" else "inf"
  | .zero negative => if negative then "-0.0" else "0.0"
  | .finite negative magnitude =>
      (if negative then "-" else "") ++ decimal (magnitude.shortest .up)

def metric : Metric → String
  | .cosine => "Cosine"
  | .euclidean => "L2"

def backend : Backend → String
  | .memory => "Memory"
  | .file => "File"

def tokenizerKind : Tokenizer.Kind → String
  | .simple => "Simple"
  | .tiktoken => "Tiktoken"

def indexOptions (options : IndexOptions) : String :=
  record "VectorIndexConfig"
    [("metric", metric options.metric),
      ("query_better_than_threshold", single options.threshold),
      ("storage_backend", backend options.backend),
      ("storage_file", path options.file),
      ("auto_save", boolean options.autoSave),
      ("meta_fields", list (options.shownFields.map text))]

def index {σ : Type} (index : Index σ) : String :=
  record "VectorIndex"
    [("namespace", text index.name),
      ("config", indexOptions index.options),
      ("embedder", text index.embedder.model),
      ("dim", toString index.dimension),
      ("records", toString index.records.size)]

def corpusOptions (options : CorpusOptions) : String :=
  record "GraphRagConfig"
    [("working_dir", path options.workingDirectory),
      ("chunk_token_size", toString options.chunkSize),
      ("chunk_overlap_token_size", toString options.chunkOverlap),
      ("enable_naive_rag", boolean options.indexesChunks),
      ("enable_local", boolean options.indexesEntities),
      ("vector", indexOptions options.index)]

def corpus {σ : Type} (corpus : Corpus σ) : String :=
  record "GraphRag"
    [("config", corpusOptions corpus.options),
      ("tokenizer", tokenizerKind corpus.tokenizer.kind),
      ("llm", optional (corpus.generator.map fun generator => text generator.model)),
      ("full_docs", toString corpus.documents.size),
      ("text_chunks", toString corpus.chunks.size),
      ("chunks_vdb", optional (corpus.chunkIndex.map index)),
      ("entities_vdb", optional (corpus.entityIndex.map index))]

end Inspect

end Retrieval
