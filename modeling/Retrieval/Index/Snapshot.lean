import Retrieval.Host
import Retrieval.Index.Basic

/-!
# Snapshots

A snapshot is the JSON text of an index: its dimension, its metric and its
records by ascending identifier.  A file-backed index starts from the snapshot
at its path, if one is there; the metric in it does not matter.  Numbers that
are not finite are written as null, which no snapshot may hold.
-/

namespace Retrieval

structure Snapshot where
  dimension : Nat
  metric : Metric
  records : List (String × StoredVector)

namespace Snapshot

def fieldNames : List String := ["dim", "metric", "records"]

def recordFieldNames : List String := ["id", "embedding", "metadata"]

def recordToJson (record : String × StoredVector) : Json :=
  .record
    [("id", .ofText record.1),
      ("embedding", .array (record.2.embedding.map Json.ofSingle)),
      ("metadata", record.2.shown.toJson)]

def toJson (snapshot : Snapshot) : Json :=
  .record
    [("dim", .ofNat snapshot.dimension),
      ("metric", snapshot.metric.toJson),
      ("records", .array (snapshot.records.map recordToJson))]

def recordOfJson? (json : Json) : Option (String × StoredVector) := do
  let members ← json.members? recordFieldNames
  let id ← members.required? "id" Json.text?
  return (id, {
    embedding := ← members.required? "embedding" (Json.list? Json.single?)
    shown := ← members.required? "metadata" Json.textTable? })

def ofJson? (json : Json) : Option Snapshot := do
  let members ← json.members? fieldNames
  return {
    dimension := ← members.required? "dim" Json.natural64?
    metric := ← members.required? "metric" Metric.ofJson?
    records := ← members.required? "records" (Json.list? recordOfJson?) }

def write (snapshot : Snapshot) : String := snapshot.toJson.write

def read? (text : String) : Option Snapshot := do ofJson? (← Json.read? text)

end Snapshot

namespace Index

variable {σ : Type}

def snapshot (index : Index σ) : Snapshot :=
  ⟨index.dimension, index.options.metric, index.records.entries⟩

/-- The index with the records of a snapshot; two known dimensions have to agree. -/
def restore (index : Index σ) (snapshot : Snapshot) : Except Failure (Index σ) :=
  if index.dimension ≠ 0 ∧ snapshot.dimension ≠ 0 ∧ snapshot.dimension ≠ index.dimension then
    .error (.dimensionMismatch index.dimension snapshot.dimension)
  else
    .ok { index with
      dimension := if index.dimension = 0 then snapshot.dimension else index.dimension
      records := Table.ofList snapshot.records }

/-- The index with the records of the snapshot at its path. -/
def load (index : Index σ) (files : FileStore) : Except Failure (Index σ) :=
  match files.readText? index.options.file with
  | none => .error .io
  | some text =>
      match Snapshot.read? text with
      | none => .error .serialization
      | some snapshot => index.restore snapshot

/-- A new index, with the records of its snapshot if it keeps one and the file is there. -/
def start (name : String) (options : IndexOptions) (embedder : Embedder σ) (files : FileStore) :
    Except Failure (Index σ) :=
  let index := fresh name options embedder
  if options.backend = .file ∧ files.contains options.file then index.load files else .ok index

/-- The snapshot written to the path of a file-backed index; in memory nothing is written. -/
def save (index : Index σ) (files : FileStore) : Except Failure Unit × FileStore :=
  if index.options.backend = .file then
    match files.writeThrough index.options.file (.text index.snapshot.write) with
    | (false, files) => (.error .io, files)
    | (true, files) => (.ok (), files)
  else (.ok (), files)

end Index

end Retrieval
