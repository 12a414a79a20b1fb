import Retrieval.Embedding
import Retrieval.Failure
import Retrieval.Json.Record
import Retrieval.Path

/-!
# Options of a vector index
-/

namespace Retrieval

inductive Metric where
  | cosine
  | euclidean
  deriving DecidableEq, Repr, Inhabited

namespace Metric

def name : Metric → String
  | .cosine => "cosine"
  | .euclidean => "l2"

def all : List Metric := [.cosine, .euclidean]

/-- Letter case does not matter. -/
def ofName (text : String) : Except Failure Metric :=
  match text.toLower with
  | "cosine" => .ok .cosine
  | "l2" => .ok .euclidean
  | "euclidean" => .ok .euclidean
  | other => .error (.configuration (.unknownMetric other))

/-- A higher score is a better match. -/
def score (metric : Metric) (query stored : Embedding) : Float32 :=
  match metric with
  | .cosine => query.cosine stored
  | .euclidean => 1.0 / (1.0 + query.distance stored)

def toJson (metric : Metric) : Json := .ofText metric.name

def ofJson? : Json → Option Metric := Json.choice? (all.map fun metric => (metric.name, metric))

end Metric

inductive Backend where
  | memory
  | file
  deriving DecidableEq, Repr, Inhabited

namespace Backend

def name : Backend → String
  | .memory => "memory"
  | .file => "file"

def all : List Backend := [.memory, .file]

/-- Letter case does not matter. -/
def ofName (text : String) : Except Failure Backend :=
  match text.toLower with
  | "memory" => .ok .memory
  | "file" => .ok .file
  | other => .error (.configuration (.unknownBackend other))

def toJson (backend : Backend) : Json := .ofText backend.name

def ofJson? : Json → Option Backend :=
  Json.choice? (all.map fun backend => (backend.name, backend))

end Backend

/-- The name of a snapshot file, where no other is given. -/
def IndexOptions.defaultFileName : String := "nano-vectordb.json"

structure IndexOptions where
  metric : Metric := .cosine
  /-- Matches below it are dropped; zero or less keeps all of them. -/
  threshold : Float32 := 0.2
  backend : Backend := .memory
  file : Path := ⟨IndexOptions.defaultFileName⟩
  autoSave : Bool := false
  /-- The fields of a record that its matches show. -/
  shownFields : List String := []
  deriving DecidableEq

namespace IndexOptions

def fieldNames : List String :=
  ["metric", "query_better_than_threshold", "storage_backend", "storage_file", "auto_save",
    "meta_fields"]

def toJson (options : IndexOptions) : Json :=
  .record
    [("metric", options.metric.toJson),
      ("query_better_than_threshold", .ofSingle options.threshold),
      ("storage_backend", options.backend.toJson),
      ("storage_file", .ofText options.file.text),
      ("auto_save", .boolean options.autoSave),
      ("meta_fields", .array (options.shownFields.map Json.ofText))]

/-- A field that is not there has its default. -/
def ofJson? (json : Json) : Option IndexOptions := do
  let members ← json.members? fieldNames
  let absent : IndexOptions := {}
  return {
    metric := ← members.optional? "metric" absent.metric Metric.ofJson?
    threshold := ← members.optional? "query_better_than_threshold" absent.threshold Json.single?
    backend := ← members.optional? "storage_backend" absent.backend Backend.ofJson?
    file := ← members.optional? "storage_file" absent.file fun json => json.text?.map Path.mk
    autoSave := ← members.optional? "auto_save" absent.autoSave Json.boolean?
    shownFields := ← members.optional? "meta_fields" absent.shownFields (Json.list? Json.text?) }

end IndexOptions

end Retrieval
