import Retrieval.Index.Upsert
import Retrieval.Proofs.Table

/-!
# What an upsert does

An upsert ends in one of three ways (`Upserted`): nothing was to be done, the
batch was refused and the index is as before, or the batch was stored and then
perhaps written out.  A stored batch is a table over the identifiers of the
batch, merged into the records (`records_of_accept`).
-/

namespace Retrieval

/-- Whatever the embedder answers, it answers each text of a batch with one embedding,
which depends on the text alone. -/
def Embedder.AnswersWith {σ : Type} (embedder : Embedder σ) (embeddingOf : String → Embedding) :
    Prop :=
  ∀ texts outside reply, (embedder.embed texts outside).1 = .ok reply →
    reply = texts.map embeddingOf

/-- An embedder for which all texts are alike. -/
def Embedder.uniform (embedding : Embedding) : Embedder Unit where
  model := "uniform"
  dimension := embedding.length
  tokenLimit := Embedder.defaultTokenLimit
  embed := fun texts outside => (.ok (texts.map fun _ => embedding), outside)

namespace Index

variable {σ : Type}

theorem length_contents (batch : Table String Properties) :
    (contents batch).length = batch.size := by
  simp [contents, Table.values, Table.size]

theorem length_aligned (index : Index σ) (count : Nat) (reply : List Embedding) :
    (index.aligned count reply).length = count := by
  unfold aligned
  split
  · next same => exact same
  · exact List.length_replicate

theorem aligned_of_length {index : Index σ} {count : Nat} {reply : List Embedding}
    (same : reply.length = count) : index.aligned count reply = reply := by
  rw [aligned, if_pos same]

theorem keys_storedBatch (options : IndexOptions) (batch : Table String Properties)
    {embeddings : List Embedding} (same : embeddings.length = batch.size) :
    (storedBatch options batch embeddings).map (·.1) = batch.keys := by
  have zipped : (batch.entries.zip embeddings).map Prod.fst = batch.entries :=
    List.map_fst_zip (Nat.le_of_eq same.symm)
  calc (storedBatch options batch embeddings).map (·.1)
      = ((batch.entries.zip embeddings).map Prod.fst).map Prod.fst := by
        simp [storedBatch, Function.comp_def]
    _ = batch.keys := by rw [zipped]; rfl

theorem ascending_storedBatch (options : IndexOptions) (batch : Table String Properties)
    {embeddings : List Embedding} (same : embeddings.length = batch.size) :
    Ascending (storedBatch options batch embeddings) := by
  rw [Table.ascending_iff_keys, keys_storedBatch options batch same]
  exact batch.pairwise_keys

/-- The stored form of a record keeps what its matches show and one of the embeddings. -/
theorem mem_storedBatch {options : IndexOptions} {batch : Table String Properties}
    {embeddings : List Embedding} {id : String} {stored : StoredVector}
    (member : (id, stored) ∈ storedBatch options batch embeddings) :
    ∃ record, batch.get? id = some record ∧ stored.shown = shownOf options record ∧
      stored.embedding ∈ embeddings := by
  obtain ⟨⟨⟨key, record⟩, embedding⟩, inside, same⟩ := List.mem_map.mp member
  cases same
  refine ⟨record, ?_, rfl, (List.of_mem_zip inside).2⟩
  exact Table.get?_eq_some_iff.mpr (List.of_mem_zip inside).1

/-- The stored form of a record whose text has an embedding of its own. -/
def vectorOf (options : IndexOptions) (embeddingOf : String → Embedding) (record : Properties) :
    StoredVector :=
  ⟨embeddingOf ((record.get? contentField).getD ""), shownOf options record⟩

/-- Where each text has an embedding of its own, each record is stored with that of its text. -/
theorem storedBatch_map (options : IndexOptions) (batch : Table String Properties)
    (embeddingOf : String → Embedding) :
    storedBatch options batch ((contents batch).map embeddingOf) =
      (batch.map fun _ record => vectorOf options embeddingOf record).entries := by
  let embedded (entry : String × Properties) : Embedding :=
    embeddingOf ((entry.2.get? contentField).getD "")
  have paired : batch.entries.zip (batch.entries.map embedded) =
      batch.entries.map fun entry => (entry, embedded entry) := by
    calc batch.entries.zip (batch.entries.map embedded)
        = (batch.entries.map id).zip (batch.entries.map embedded) := by rw [List.map_id]
      _ = batch.entries.map fun entry => (entry, embedded entry) := List.zip_map'
  simp only [storedBatch, contents, Table.values, Table.map, List.map_map]
  change (batch.entries.zip (batch.entries.map embedded)).map _ = _
  rw [paired, List.map_map]
  rfl

theorem get?_shownOf (options : IndexOptions) (record : Properties) (field : String) :
    (shownOf options record).get? field =
      if field ∈ options.shownFields then record.get? field else none := by
  have chosen (fields : List String) :
      (fields.filterMap fun other => (record.get? other).map fun value => (other, value)).lookup
          field =
        if field ∈ fields then record.get? field else none := by
    induction fields with
    | nil => rfl
    | cons other rest ih =>
        by_cases same : field = other
        · subst same
          cases found : record.get? field with
          | none => simp [found, ih]
          | some value => simp [found]
        · have differs : (field == other) = false := beq_false_of_ne same
          cases found : record.get? other with
          | none => simp [found, ih, same]
          | some value => simp [found, ih, same, List.lookup_cons, differs]
  rw [shownOf, Table.get?_ofList, ← List.filterMap_reverse, chosen]
  simp only [List.mem_reverse]

/-! ## The batch accepted -/

/-- An accepted batch leaves the index with a dimension for all of it and with its records. -/
theorem accept_ok {index grown : Index σ} {batch : Table String Properties}
    {reply : List Embedding} (accepted : index.accept batch reply = .ok grown) :
    ∃ dimension, sized index.dimension (index.aligned batch.size reply) = .ok dimension ∧
      grown = { index with
        dimension
        records := index.records.insertMany
          (storedBatch index.options batch (index.aligned batch.size reply)) } := by
  unfold accept at accepted
  dsimp only at accepted
  cases measured : sized index.dimension (index.aligned batch.size reply) with
  | error failure =>
      rw [measured] at accepted
      cases accepted
  | ok dimension =>
      rw [measured] at accepted
      cases accepted
      exact ⟨dimension, rfl, rfl⟩

/-- The stored form of a batch, by identifier. -/
def storedTable (index : Index σ) (batch : Table String Properties) (reply : List Embedding) :
    Table String StoredVector :=
  ⟨storedBatch index.options batch (index.aligned batch.size reply),
    ascending_storedBatch index.options batch (index.length_aligned batch.size reply)⟩

/-- An answer with an embedding for each text stores each record with the one of its text. -/
theorem storedTable_map (index : Index σ) (batch : Table String Properties)
    (embeddingOf : String → Embedding) :
    index.storedTable batch ((contents batch).map embeddingOf) =
      batch.map fun _ record => vectorOf index.options embeddingOf record := by
  have whole : ((contents batch).map embeddingOf).length = batch.size := by
    rw [List.length_map, length_contents]
  apply Table.ext_entries
  rw [← storedBatch_map]
  exact congrArg (storedBatch index.options batch) (aligned_of_length whole)

theorem keys_storedTable (index : Index σ) (batch : Table String Properties)
    (reply : List Embedding) : (index.storedTable batch reply).keys = batch.keys :=
  keys_storedBatch index.options batch (index.length_aligned batch.size reply)

theorem contains_storedTable (index : Index σ) (batch : Table String Properties)
    (reply : List Embedding) (id : String) :
    (index.storedTable batch reply).contains id = batch.contains id := by
  rw [Bool.eq_iff_iff, ← Table.mem_keys, ← Table.mem_keys, keys_storedTable]

theorem exists_stored_of_mem_aligned {index : Index σ} {batch : Table String Properties}
    {reply : List Embedding} {embedding : Embedding}
    (member : embedding ∈ index.aligned batch.size reply) :
    ∃ id stored, (index.storedTable batch reply).get? id = some stored ∧
      stored.embedding = embedding := by
  obtain ⟨place, inside, same⟩ := List.getElem_of_mem member
  have known : place < batch.entries.length :=
    Nat.lt_of_lt_of_eq inside (index.length_aligned batch.size reply)
  have zipped : place < (batch.entries.zip (index.aligned batch.size reply)).length := by
    rw [List.length_zip]
    exact Nat.lt_min.mpr ⟨known, inside⟩
  let entry := (batch.entries.zip (index.aligned batch.size reply))[place]
  have paired : entry = (batch.entries[place], embedding) := by
    rw [← same]
    exact List.getElem_zip
  refine ⟨entry.1.1, ⟨entry.2, shownOf index.options entry.1.2⟩, ?_, congrArg Prod.snd paired⟩
  exact Table.get?_eq_some_iff.mpr (List.mem_map.mpr ⟨entry, List.getElem_mem zipped, rfl⟩)

theorem records_of_accept {index grown : Index σ} {batch : Table String Properties}
    {reply : List Embedding} (accepted : index.accept batch reply = .ok grown) :
    grown.records = index.records.merge (index.storedTable batch reply) := by
  obtain ⟨dimension, -, rfl⟩ := accept_ok accepted
  rw [Table.insertMany_eq_merge, Table.ofList_eq
    (ascending_storedBatch index.options batch (index.length_aligned batch.size reply))]
  rfl

theorem options_of_accept {index grown : Index σ} {batch : Table String Properties}
    {reply : List Embedding} (accepted : index.accept batch reply = .ok grown) :
    grown.options = index.options := by
  obtain ⟨dimension, -, rfl⟩ := accept_ok accepted
  rfl

theorem embedder_of_accept {index grown : Index σ} {batch : Table String Properties}
    {reply : List Embedding} (accepted : index.accept batch reply = .ok grown) :
    grown.embedder = index.embedder := by
  obtain ⟨dimension, -, rfl⟩ := accept_ok accepted
  rfl

theorem save_of_memory {index : Index σ} (inMemory : index.options.backend = .memory)
    (files : FileStore) : index.save files = (.ok (), files) := by
  rw [save, inMemory]
  rfl

/-- A save that succeeds writes the snapshot of a file-backed index, and nothing in memory. -/
theorem save_ok {index : Index σ} {files written : FileStore}
    (done : index.save files = (.ok (), written)) :
    index.options.backend = .memory ∧ written = files ∨
    index.options.backend = .file ∧
      files.writeThrough index.options.file (.text index.snapshot.write) = (true, written) := by
  cases kind : index.options.backend with
  | memory =>
      rw [save_of_memory kind] at done
      cases done
      exact .inl ⟨rfl, rfl⟩
  | file =>
      right
      refine ⟨rfl, ?_⟩
      rw [save, if_pos kind] at done
      cases outcome : files.writeThrough index.options.file (.text index.snapshot.write) with
      | mk verdict after =>
          rw [outcome] at done
          cases verdict with
          | false => cases done
          | true =>
              cases done
              rfl

/-! ## The ways in which an upsert ends -/

def replyTo (index : Index σ) (batch : Table String Properties) (host : Host σ) :
    Except Failure (List Embedding) :=
  (index.embedder.embed (contents batch) host.outside).1

/-- How an upsert ends, with the index and the files after it. -/
inductive Upserted (index : Index σ) (batch : Table String Properties) (host : Host σ) :
    Except Failure Unit → Index σ → FileStore → Prop where
  | nothing (empty : batch = Table.empty) : Upserted index batch host (.ok ()) index host.files
  | refused {failure : Failure} (filled : batch ≠ Table.empty)
      (refusal : (index.replyTo batch host).bind (index.accept batch) = .error failure) :
      Upserted index batch host (.error failure) index host.files
  | kept {reply : List Embedding} {grown : Index σ} (filled : batch ≠ Table.empty)
      (replied : index.replyTo batch host = .ok reply)
      (accepted : index.accept batch reply = .ok grown)
      (unsaved : index.options.autoSave = false) :
      Upserted index batch host (.ok ()) grown host.files
  | saved {reply : List Embedding} {grown : Index σ} (filled : batch ≠ Table.empty)
      (replied : index.replyTo batch host = .ok reply)
      (accepted : index.accept batch reply = .ok grown)
      (saves : index.options.autoSave = true) :
      Upserted index batch host (grown.save host.files).1 grown (grown.save host.files).2

theorem upserted (index : Index σ) (batch : Table String Properties) (host : Host σ) :
    Upserted index batch host (index.upsert batch host).1 (index.upsert batch host).2.1
      (index.upsert batch host).2.2.files := by
  unfold upsert
  cases empty : batch.isEmpty with
  | true =>
      rw [if_pos rfl]
      exact .nothing (batch.isEmpty_iff.mp empty)
  | false =>
      have filled : batch ≠ Table.empty := by
        intro same
        rw [batch.isEmpty_iff.mpr same] at empty
        cases empty
      rw [if_neg Bool.false_ne_true]
      dsimp only
      cases replied : (index.embedder.embed (contents batch) host.outside).1.bind
          (index.accept batch) with
      | error failure => exact .refused filled replied
      | ok grown =>
          cases answer : (index.embedder.embed (contents batch) host.outside).1 with
          | error failure =>
              rw [answer] at replied
              cases replied
          | ok reply =>
              rw [answer] at replied
              have accepted : index.accept batch reply = .ok grown := replied
              have sameOptions := options_of_accept accepted
              dsimp only
              cases saves : index.options.autoSave with
              | false =>
                  rw [sameOptions, saves, if_neg Bool.false_ne_true]
                  exact .kept filled answer accepted saves
              | true =>
                  rw [sameOptions, saves, if_pos rfl]
                  exact .saved filled answer accepted saves

theorem Upserted.options_eq {index grown : Index σ} {batch : Table String Properties}
    {host : Host σ} {outcome : Except Failure Unit} {files : FileStore}
    (ending : index.Upserted batch host outcome grown files) : grown.options = index.options := by
  cases ending with
  | nothing => rfl
  | refused => rfl
  | kept _ _ accepted => exact options_of_accept accepted
  | saved _ _ accepted => exact options_of_accept accepted

end Index

end Retrieval
