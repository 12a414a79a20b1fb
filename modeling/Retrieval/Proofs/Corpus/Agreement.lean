import Retrieval.Proofs.Corpus.Blank

/-!
# The chunk index and the chunk records agree

An insertion writes the chunk index first and the chunk records after it, and it
may stop in between.  In memory it stops only before the index has changed, so
the two bind the same identifiers after every run, and what the index holds of a
chunk is what the chunk record says.
-/

namespace Retrieval

namespace Corpus

variable {σ : Type}

/-- What the index holds for a chunk comes from the record of that chunk. -/
structure Describes (options : IndexOptions) (embedder : Embedder σ) (stored : StoredVector)
    (chunk : Chunk) : Prop where
  shown : stored.shown = Index.shownOf options (recordOf chunk)
  embedding : ∀ embeddingOf, embedder.AnswersWith embeddingOf →
    stored.embedding = embeddingOf chunk.content

theorem get?_recordOf_content (chunk : Chunk) :
    (recordOf chunk).get? "content" = some chunk.content := by
  rw [recordOf, Table.get?_ofList]
  rfl

theorem get?_recordOf_document (chunk : Chunk) :
    (recordOf chunk).get? "full_doc_id" = some chunk.document.text := by
  rw [recordOf, Table.get?_ofList]
  rfl

theorem get?_batchOf (chunks : Table String Chunk) (id : String) :
    (batchOf chunks).get? id = (chunks.get? id).map recordOf :=
  Table.get?_map _ _ _

theorem contains_batchOf (chunks : Table String Chunk) (id : String) :
    (batchOf chunks).contains id = chunks.contains id := by
  rw [Table.contains, get?_batchOf, Option.isSome_map]
  rfl

theorem paired_storedTable {index : Index σ} {chunks : Table String Chunk} {host : Host σ}
    {reply : List Embedding} (replied : index.replyTo (batchOf chunks) host = .ok reply) :
    Table.Paired (Describes index.options index.embedder)
      (index.storedTable (batchOf chunks) reply) chunks := by
  intro id
  have sameKeys : (index.storedTable (batchOf chunks) reply).contains id = chunks.contains id :=
    (index.contains_storedTable (batchOf chunks) reply id).trans (contains_batchOf chunks id)
  cases found : (index.storedTable (batchOf chunks) reply).get? id with
  | none =>
      rw [Table.get?_eq_none_iff.mp found] at sameKeys
      rw [Table.get?_eq_none_iff.mpr sameKeys.symm]
      exact Option.Rel.none
  | some stored =>
      obtain ⟨record, bound, shown, -⟩ :=
        Index.mem_storedBatch (Table.get?_eq_some_iff.mp found)
      rw [get?_batchOf, Option.map_eq_some_iff] at bound
      obtain ⟨chunk, present, rfl⟩ := bound
      rw [present]
      refine Option.Rel.some ⟨shown, ?_⟩
      intro embeddingOf answers
      have listed := answers _ _ _ replied
      rw [listed, Index.storedTable_map, Table.get?_map, get?_batchOf, present] at found
      cases found
      exact congrArg (fun text => embeddingOf (text.getD "")) (get?_recordOf_content chunk)

theorem paired_of_accept {index grown : Index σ} {chunks records : Table String Chunk}
    {host : Host σ} {reply : List Embedding}
    (agrees : Table.Paired (Describes index.options index.embedder) index.records records)
    (replied : index.replyTo (batchOf chunks) host = .ok reply)
    (accepted : index.accept (batchOf chunks) reply = .ok grown) :
    Table.Paired (Describes grown.options grown.embedder) grown.records
      (records.merge chunks) := by
  rw [Index.options_of_accept accepted, Index.embedder_of_accept accepted,
    Index.records_of_accept accepted]
  exact (paired_storedTable replied).merge agrees

theorem batchOf_eq_empty {chunks : Table String Chunk} (none : batchOf chunks = Table.empty) :
    chunks = Table.empty := by
  apply Table.ext_get?
  intro id
  have absent := get?_batchOf chunks id
  rw [none, Table.get?_empty] at absent
  exact Option.map_eq_none_iff.mp absent.symm

theorem paired_of_upserted {index grown : Index σ} {chunks records : Table String Chunk}
    {host : Host σ} {files : FileStore} {outcome : Except Failure Unit}
    (ending : index.Upserted (batchOf chunks) host outcome grown files)
    (taken : outcome = .ok ())
    (agrees : Table.Paired (Describes index.options index.embedder) index.records records) :
    Table.Paired (Describes grown.options grown.embedder) grown.records
      (records.merge chunks) := by
  cases ending with
  | nothing none =>
      rw [batchOf_eq_empty none, Table.merge_empty]
      exact agrees
  | refused => cases taken
  | kept _ replied accepted => exact paired_of_accept agrees replied accepted
  | saved _ replied accepted => exact paired_of_accept agrees replied accepted

/-- In memory an index that does not take a batch is as it was: there is no write to fail. -/
theorem eq_of_upserted_error {index grown : Index σ} {batch : Table String Properties}
    {host : Host σ} {files : FileStore} {outcome : Except Failure Unit} {failure : Failure}
    (ending : index.Upserted batch host outcome grown files) (refused : outcome = .error failure)
    (inMemory : grown.options.backend = .memory) : grown = index := by
  cases ending with
  | nothing => rfl
  | refused => rfl
  | kept => cases refused
  | saved =>
      rw [Index.save_of_memory inMemory] at refused
      cases refused

/-! ## Runs -/

/-- A chunk index in memory describes the chunk records, identifier by identifier. -/
def IndexAgrees (corpus : Corpus σ) : Prop :=
  ∀ index, corpus.chunkIndex = some index → index.options.backend = .memory →
    Table.Paired (Describes index.options index.embedder) index.records corpus.chunks.records

theorem indexAgrees_start {options : CorpusOptions} {tokenizer : Tokenizer}
    {embedder : Option (Embedder σ)} {files made : FileStore} {corpus : Corpus σ}
    (started : Corpus.start options tokenizer embedder files = (.ok corpus, made)) :
    corpus.IndexAgrees := by
  obtain ⟨chunkIndex, entityIndex, chunksStarted, -, rfl⟩ := start_ok started
  intro index indexed inMemory
  obtain rfl : chunkIndex = some index := indexed
  obtain ⟨provider, -, made⟩ := startIndex_some chunksStarted
  rw [Index.options_of_start made] at inMemory
  rw [Index.start_of_memory made inMemory]
  exact Table.Paired.empty

/-- An insertion keeps the agreement: it either leaves the index alone or stores in the index
and in the collection what belongs together. -/
theorem indexAgrees_insert {corpus : Corpus σ} (agrees : corpus.IndexAgrees)
    (texts : List String) (host : Host σ) : (corpus.insert texts host).2.1.IndexAgrees := by
  have ending := corpus.inserted texts host
  generalize (corpus.insert texts host).1 = outcome, (corpus.insert texts host).2.1 = after
    at ending ⊢
  cases ending with
  | nothing => exact agrees
  | uncut => exact agrees
  | @unindexed chunks failure indexed later _ _ refusal =>
      cases present : corpus.chunkIndex with
      | none =>
          rw [indexChunks_of_none present] at refusal
          cases refusal
      | some index =>
          rw [indexChunks_of_some present] at refusal
          obtain ⟨refused, rest⟩ := Prod.mk.inj refusal
          obtain ⟨rfl, -⟩ := Prod.mk.inj rest
          intro grown same inMemory
          cases same
          have unchanged := eq_of_upserted_error (index.upserted (batchOf chunks) host) refused
            inMemory
          rw [unchanged] at inMemory ⊢
          exact agrees index present inMemory
  | @stored chunks indexed later _ _ taken =>
      cases present : corpus.chunkIndex with
      | none =>
          rw [indexChunks_of_none present] at taken
          cases taken
          intro grown same
          rw [store, present] at same
          cases same
      | some index =>
          rw [indexChunks_of_some present] at taken
          obtain ⟨done, rest⟩ := Prod.mk.inj taken
          obtain ⟨rfl, -⟩ := Prod.mk.inj rest
          intro grown same inMemory
          cases same
          have ending := index.upserted (batchOf chunks) host
          refine paired_of_upserted ending done (agrees index present ?_)
          rw [← ending.options_eq]
          exact inMemory

theorem Reachable.indexAgrees {corpus : Corpus σ} (reached : Reachable corpus) :
    corpus.IndexAgrees := by
  induction reached with
  | start started => exact indexAgrees_start started
  | @perform corpus _ operation host ih =>
      cases operation with
      | insert texts => exact indexAgrees_insert ih texts host
      | answer => exact ih
      | save => exact ih
      | setTokenizer => exact ih
      | setGenerator => exact ih
      | setWindows chunkSize chunkOverlap =>
          rcases corpus.perform_setWindows chunkSize chunkOverlap host with same | ⟨-, changed⟩
          · rw [same]
            exact ih
          · rw [changed]
            exact ih

/-- After every run the chunk index in memory and the chunk records bind the same identifiers.
Of each chunk the index shows its content and its document where it is to show those fields,
and nothing of them elsewhere; and an embedder that looks at one text at a time has embedded
the content of the chunk record. -/
theorem chunkIndex_agrees_with_chunks {corpus : Corpus σ} (reached : Reachable corpus)
    {index : Index σ} (indexed : corpus.chunkIndex = some index)
    (inMemory : index.options.backend = .memory) :
    (∀ id, index.records.contains id = corpus.chunks.records.contains id) ∧
    ∀ id stored chunk, index.records.get? id = some stored → corpus.chunks.get? id = some chunk →
      stored.shown.get? "content" =
        (if "content" ∈ index.options.shownFields then some chunk.content else none) ∧
      stored.shown.get? "full_doc_id" =
        (if "full_doc_id" ∈ index.options.shownFields then some chunk.document.text else none) ∧
      ∀ embeddingOf, index.embedder.AnswersWith embeddingOf →
        stored.embedding = embeddingOf chunk.content := by
  have agrees := reached.indexAgrees index indexed inMemory
  refine ⟨agrees.contains_eq, ?_⟩
  intro id stored chunk found present
  have described := agrees.related_of_get? found present
  refine ⟨?_, ?_, described.embedding⟩
  · rw [described.shown, Index.get?_shownOf, get?_recordOf_content]
  · rw [described.shown, Index.get?_shownOf, get?_recordOf_document]

/-- Two documents that begin alike, inserted one after the other.  The index shows of their common
chunk that it is part of the later one. -/
theorem chunkIndex_agrees_with_chunks_of_alike :
    ∃ (corpus : Corpus Unit) (index : Index Unit) (stored : StoredVector),
      Reachable corpus ∧ corpus.chunkIndex = some index ∧ index.options.backend = .memory ∧
      corpus.chunks.size = 3 ∧
      (∀ id, index.records.contains id = corpus.chunks.records.contains id) ∧
      corpus.chunks.get? sharedId = some ⟨2, "a b", ContentId.forDocument "a b d", 0⟩ ∧
      index.records.get? sharedId = some stored ∧
      stored.shown.get? "content" = some "a b" ∧
      stored.shown.get? "full_doc_id" = some (ContentId.forDocument "a b d").text ∧
      stored.embedding = [0.0, 1.0] := by
  let options : IndexOptions := { shownFields := ["content", "full_doc_id"] }
  let corpus := alike options (.mapping 2 alikeEmbedding) none alikeEmbedding
  have reached : Reachable corpus :=
    reachable_windowed (by decide) rfl alikeEmbedding_maps
      (addsEach_alike options none alikeEmbedding_maps) ()
  have chunks : corpus.chunks.records = alikeChunks := chunks_alike _ _ _ _
  have size : corpus.chunks.size = 3 := (congrArg Table.size chunks).trans (by decide +kernel)
  have present : corpus.chunks.get? sharedId =
      some ⟨2, "a b", ContentId.forDocument "a b d", 0⟩ := by
    rw [Collection.get?, chunks]
    decide +kernel
  obtain ⟨index, indexed, inMemory, showing, embedder⟩ : ∃ index,
      corpus.chunkIndex = some index ∧ index.options.backend = .memory ∧
      index.options.shownFields = ["content", "full_doc_id"] ∧
      index.embedder = .mapping 2 alikeEmbedding :=
    ⟨_, rfl, rfl, rfl, rfl⟩
  obtain ⟨sameIds, described⟩ := chunkIndex_agrees_with_chunks reached indexed inMemory
  obtain ⟨stored, found⟩ := Table.contains_iff.mp
    ((sameIds _).trans (Table.contains_iff.mpr ⟨_, present⟩))
  obtain ⟨content, document, embedding⟩ := described _ _ _ found present
  rw [showing] at content document
  refine ⟨corpus, index, stored, reached, indexed, inMemory, size, sameIds, present, found, content,
    document, ?_⟩
  rw [embedder] at embedding
  exact embedding _ alikeEmbedding_maps.answersWith

end Corpus

end Retrieval
