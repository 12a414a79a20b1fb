import Retrieval.Proofs.FileStore
import Retrieval.Proofs.Index.Ranking
import Retrieval.Proofs.Index.Run
import Retrieval.Proofs.Json.Number
import Retrieval.Proofs.Json.Record

/-!
# Snapshots read back

A snapshot is written as text that is read as the same snapshot, whatever texts
are in it, as long as its numbers are read as what was written.  So a file-backed
index that was saved is started again with the same dimension and the same
records, and answers the same queries alike.
-/

namespace Retrieval

/-- The number is read back from its numeral. -/
def Rereads (value : Float32) : Prop := (Json.ofSingle value).single? = some value

namespace Metric

theorem ofJson?_toJson (metric : Metric) : ofJson? metric.toJson = some metric := by
  cases metric <;> rfl

end Metric

namespace Snapshot

def recordFields (record : String × StoredVector) : List (String × Json) :=
  [("id", .ofText record.1),
    ("embedding", .array (record.2.embedding.map Json.ofSingle)),
    ("metadata", record.2.shown.toJson)]

def fields (snapshot : Snapshot) : List (String × Json) :=
  [("dim", .ofNat snapshot.dimension),
    ("metric", snapshot.metric.toJson),
    ("records", .array (snapshot.records.map recordToJson))]

/-- Every part of a snapshot can be written, also one with numbers that are not finite. -/
theorem readable_toJson (snapshot : Snapshot) : Json.Readable snapshot.toJson := by
  have records : Json.Readable (.array (snapshot.records.map recordToJson)) := by
    refine Json.readable_list ?_
    intro record _
    refine Json.readable_record ?_
    simp only [List.forall_mem_cons, List.not_mem_nil, false_implies, implies_true, and_true]
    exact ⟨Json.readable_ofText _, Json.readable_list fun value _ => Json.readable_ofSingle value,
      Json.readable_properties _⟩
  refine Json.readable_record ?_
  simp only [List.forall_mem_cons, List.not_mem_nil, false_implies, implies_true, and_true]
  exact ⟨Json.readable_ofNat _, Json.readable_ofText _, records⟩

/-- A record as it comes back from its text. -/
def rereadRecord? (record : String × StoredVector) : Option (String × StoredVector) := do
  let embedding ← record.2.embedding.mapM fun value => (Json.ofSingle value).single?
  return (record.1, ⟨embedding, record.2.shown⟩)

/-- A snapshot as it comes back from its text. -/
def reread? (snapshot : Snapshot) : Option Snapshot := do
  return { snapshot with records := ← snapshot.records.mapM rereadRecord? }

theorem recordOfJson?_recordToJson (record : String × StoredVector) :
    recordOfJson? (recordToJson record) = rereadRecord? record := by
  have members : (recordToJson record).members? recordFieldNames =
      some ⟨recordFields record⟩ := Json.members?_of_names rfl (by decide)
  simp [recordOfJson?, rereadRecord?, members, recordFields, Json.Members.required?,
    List.lookup_cons, Json.list?_map, Json.textTable?_toJson]

theorem ofJson?_toJson {snapshot : Snapshot} (fits : snapshot.dimension < UInt64.size) :
    ofJson? snapshot.toJson = snapshot.reread? := by
  have members : snapshot.toJson.members? fieldNames = some ⟨snapshot.fields⟩ :=
    Json.members?_of_names rfl (by decide)
  simp [ofJson?, reread?, members, fields, Json.Members.required?, List.lookup_cons,
    Json.list?_map, recordOfJson?_recordToJson, Json.natural64?_ofNat fits, Metric.ofJson?_toJson]

theorem read?_write_eq_reread? {snapshot : Snapshot} (fits : snapshot.dimension < UInt64.size) :
    read? snapshot.write = snapshot.reread? := by
  rw [read?, write, Json.read?_write (readable_toJson snapshot)]
  exact ofJson?_toJson fits

theorem rereadRecord?_of_rereads {record : String × StoredVector}
    (rereads : ∀ value ∈ record.2.embedding, Rereads value) :
    rereadRecord? record = some record := by
  rw [rereadRecord?, Json.mapM_of_reads rereads]
  rfl

/-- A snapshot is read back from its text. -/
theorem read?_write {snapshot : Snapshot} (fits : snapshot.dimension < UInt64.size)
    (rereads : ∀ record ∈ snapshot.records, ∀ value ∈ record.2.embedding, Rereads value) :
    read? snapshot.write = some snapshot := by
  have records : snapshot.records.mapM rereadRecord? = some snapshot.records :=
    Json.mapM_of_reads fun record inside => rereadRecord?_of_rereads (rereads record inside)
  rw [read?_write_eq_reread? fits, reread?, records]
  rfl

end Snapshot

namespace Index

variable {σ : Type}

theorem found?_of_save {index : Index σ} {files : FileStore}
    (onFile : index.options.backend = .file) (saved : (index.save files).1 = .ok ()) :
    (index.save files).2.found? index.options.file =
      some (.file (.text index.snapshot.write)) := by
  have done : index.save files = (.ok (), (index.save files).2) := Prod.ext saved rfl
  rcases save_ok done with ⟨inMemory, -⟩ | ⟨-, written⟩
  · rw [onFile] at inMemory
    cases inMemory
  · have stands := FileStore.found?_of_writeThrough (congrArg Prod.fst written)
    rw [written] at stands
    exact stands

/-- An index that is started over a snapshot with its dimension, or that does not know its own,
takes the snapshot over. -/
theorem start_of_found? {name : String} {options : IndexOptions} {embedder : Embedder σ}
    {files : FileStore} {text : String} {snapshot : Snapshot} (onFile : options.backend = .file)
    (found : files.found? options.file = some (.file (.text text)))
    (understood : Snapshot.read? text = some snapshot)
    (agrees : embedder.dimension = 0 ∨ embedder.dimension = snapshot.dimension) :
    Index.start name options embedder files =
      .ok ⟨name, options, embedder, snapshot.dimension, Table.ofList snapshot.records⟩ := by
  have present := FileStore.contains_of_found? found
  have loaded : (fresh name options embedder).load files =
      (fresh name options embedder).restore snapshot :=
    load_of_readText? (FileStore.readText?_of_found? found) understood
  have compatible : ¬ ((fresh name options embedder).dimension ≠ 0 ∧ snapshot.dimension ≠ 0 ∧
      snapshot.dimension ≠ (fresh name options embedder).dimension) := by
    rintro ⟨known, -, differs⟩
    rcases agrees with unknown | same
    · exact known unknown
    · exact differs same.symm
  have dimension : (if embedder.dimension = 0 then snapshot.dimension else embedder.dimension) =
      snapshot.dimension := by
    rcases agrees with unknown | same
    · rw [if_pos unknown]
    · rw [same, ite_self]
  rw [start, if_pos ⟨onFile, present⟩, loaded, restore, if_neg compatible]
  change Except.ok (Index.mk name options embedder
    (if embedder.dimension = 0 then snapshot.dimension else embedder.dimension) _) = _
  rw [dimension]

/-- An index over an embedder that tells a dimension has that dimension after every run. -/
theorem dimension_of_embedder {name : String} {options : IndexOptions} {embedder : Embedder σ}
    {files : FileStore} {first index : Index σ}
    (started : Index.start name options embedder files = .ok first) (run : first.Leads index)
    (known : embedder.dimension ≠ 0) : index.dimension = embedder.dimension := by
  have initial : first.dimension = embedder.dimension := by
    rcases start_ok started with rfl | ⟨-, loaded⟩
    · rfl
    · obtain ⟨-, snapshot, -, -, restored⟩ := load_ok loaded
      rw [restore_ok restored]
      exact if_neg known
  rw [run.dimension_eq (initial ▸ known), initial]

theorem provider_agrees {name : String} {options : IndexOptions} {embedder : Embedder σ}
    {files : FileStore} {first index : Index σ}
    (started : Index.start name options embedder files = .ok first) (run : first.Leads index)
    {provider : Embedder σ} (alike : provider.dimension = embedder.dimension) :
    provider.dimension = 0 ∨ provider.dimension = index.dimension := by
  by_cases known : embedder.dimension = 0
  · exact .inl (alike.trans known)
  · exact .inr (alike.trans (dimension_of_embedder started run known).symm)

/-- Two indices with the same records answer a query alike, if its text has one embedding and
its scores are numbers, in whatever order each of them visits its records. -/
theorem queryThrough_congr {index other : Index σ} (options : other.options = index.options)
    (dimension : other.dimension = index.dimension) (records : other.records = index.records)
    {text : String} {outside outside' : σ}
    (replies : (other.embedder.embed [text] outside').1 = (index.embedder.embed [text] outside).1)
    (numeric : ∀ embedding,
      (index.embedder.embed [text] outside).1.bind index.queryEmbedding = .ok embedding →
        index.Numeric embedding)
    {order order' : List (String × StoredVector)} (same : order.Perm index.records.entries)
    (same' : order'.Perm other.records.entries) (limit : Nat) :
    (other.queryThrough order' text limit outside').1 =
      (index.queryThrough order text limit outside).1 := by
  have embedded : other.queryEmbedding = index.queryEmbedding := by
    funext reply
    rw [queryEmbedding, queryEmbedding, dimension]
  rw [queryThrough_fst, queryThrough_fst, replies, embedded, options, dimension, records]
  cases answered : (index.embedder.embed [text] outside).1.bind index.queryEmbedding with
  | error failure => rfl
  | ok embedding =>
      have number := numeric embedding answered
      have first := ranked_eq_of_perm number same limit
      have second := ranked_eq_of_perm number (records ▸ same') limit
      simp only [Except.map, first, second]

/-- A file-backed index that was saved after any run is started again from its file, over any
embedder that tells the same dimension: with the same dimension and the same records.  Both then
answer every query alike whose scores are numbers.  The numbers of the embeddings have to be
finite, and read back from their numerals. -/
theorem saved_index_is_restored {name : String} {options : IndexOptions} {embedder : Embedder σ}
    {before : FileStore} {first index : Index σ}
    (started : Index.start name options embedder before = .ok first) (run : first.Leads index)
    (onFile : options.backend = .file) (fits : index.dimension < UInt64.size)
    (finite : ∀ id stored, index.records.get? id = some stored →
      ∀ value ∈ stored.embedding, value.isFinite = true)
    (rereads : ∀ id stored, index.records.get? id = some stored →
      ∀ value ∈ stored.embedding, value.isFinite = true → Rereads value)
    {files : FileStore} (saved : (index.save files).1 = .ok ()) (other : String)
    {provider : Embedder σ} (alike : provider.dimension = embedder.dimension) :
    ∃ restored, Index.start other options provider (index.save files).2 = .ok restored ∧
      restored.dimension = index.dimension ∧ restored.records = index.records ∧
      ∀ text limit outside outside',
        (provider.embed [text] outside').1 = (embedder.embed [text] outside).1 →
        (∀ embedding, (embedder.embed [text] outside).1.bind index.queryEmbedding =
          .ok embedding → index.Numeric embedding) →
        ∀ order order', order.Perm index.records.entries → order'.Perm restored.records.entries →
          (restored.queryThrough order' text limit outside').1 =
            (index.queryThrough order text limit outside).1 := by
  have sameOptions : index.options = options := run.options_eq.trans (options_of_start started)
  have sameEmbedder : index.embedder = embedder :=
    run.embedder_eq.trans (embedder_of_start started)
  have found := found?_of_save (sameOptions ▸ onFile) saved
  rw [sameOptions] at found
  have understood : Snapshot.read? index.snapshot.write = some index.snapshot := by
    refine Snapshot.read?_write fits ?_
    rintro ⟨id, stored⟩ inside value member
    have bound := Table.get?_eq_some_iff.mpr inside
    exact rereads id stored bound value member (finite id stored bound value member)
  have agrees : provider.dimension = 0 ∨ provider.dimension = index.snapshot.dimension := by
    by_cases known : embedder.dimension = 0
    · exact .inl (alike.trans known)
    · exact .inr (alike.trans (dimension_of_embedder started run known).symm)
  let restored : Index σ :=
    ⟨other, options, provider, index.dimension, Table.ofList index.records.entries⟩
  have restarted : Index.start other options provider (index.save files).2 = .ok restored :=
    start_of_found? onFile found understood agrees
  have restoredOptions : restored.options = index.options := sameOptions.symm
  have records : restored.records = index.records := Table.ofList_entries index.records
  refine ⟨restored, restarted, rfl, records, ?_⟩
  intro text limit outside outside' replies numeric order order' same same'
  rw [← sameEmbedder] at replies numeric
  exact queryThrough_congr restoredOptions rfl records replies numeric same same' limit

/-! ## A text with a quote and a line feed -/

/-- An index over a file that shows the content of its records. -/
def quotingOptions : IndexOptions := { backend := .file, shownFields := ["content"] }

/-- One record, whose content is a quote and a line feed. -/
def quotingBatch : Table String Properties :=
  Table.ofList [("a", Table.ofList [("content", "\"\n")])]

/-- The text comes back, and a query finds it after the restart as before. -/
theorem saved_index_is_restored_of_quote :
    ∃ (index restored : Index Unit) (files : FileStore),
      (fresh "chunks" quotingOptions (.uniform [1.0])).Leads index ∧
      (index.save FileStore.empty) = (.ok (), files) ∧
      Index.start "chunks" quotingOptions (.uniform [1.0]) files = .ok restored ∧
      restored.records.get? "a" = some ⟨[1.0], Table.ofList [("content", "\"\n")]⟩ ∧
      (restored.query "q" 1 ()).1 = (index.query "q" 1 ()).1 := by
  let first : Index Unit := fresh "chunks" quotingOptions (.uniform [1.0])
  let index := (first.upsert quotingBatch ⟨FileStore.empty, ()⟩).2.1
  have started : Index.start "chunks" quotingOptions (.uniform [1.0]) FileStore.empty =
      .ok first := rfl
  have run : first.Leads index := .perform .start (.upsert quotingBatch) ⟨FileStore.empty, ()⟩
  have saved : (index.save FileStore.empty).1 = .ok () := by decide +kernel
  have only : ∀ entry ∈ index.records.entries, ∀ value ∈ entry.2.embedding,
      value.isFinite = true ∧ Rereads value := by
    unfold Rereads
    decide +kernel
  obtain ⟨restored, restarted, -, records, answers⟩ := saved_index_is_restored started run rfl
    (by decide)
    (fun id stored found value member =>
      (only _ (Table.get?_eq_some_iff.mp found) value member).1)
    (fun id stored found value member _ =>
      (only _ (Table.get?_eq_some_iff.mp found) value member).2)
    saved "chunks" rfl
  have alike := answers "q" 1 () () rfl
    (fun _ _ unguarded => absurd unguarded (by decide +kernel)) _ _ (.refl _) (.refl _)
  refine ⟨index, restored, _, run, ?_, restarted, ?_, alike⟩
  · rw [← saved]
  · rw [records]
    decide +kernel

end Index

end Retrieval
