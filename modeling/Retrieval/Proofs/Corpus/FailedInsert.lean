import Retrieval.Proofs.Corpus.Run

/-!
# Insertions that fail

A failed insertion never touches the documents and the chunk records.  The chunk
index is checked as a whole before it changes, so it too is as before, with one
exception: an index that saves itself does so after it has taken the records,
and when that write fails the insertion ends there (`Unsaved`).
-/

namespace Retrieval

namespace Corpus

variable {σ : Type}

/-- The dimension and the records of an index. -/
def contentsOf (index : Option (Index σ)) : Option (Nat × Table String StoredVector) :=
  index.map fun index => (index.dimension, index.records)

/-- The chunk index took the chunks of an insertion, became `grown` by that, and could not
write its snapshot. -/
structure Unsaved (corpus : Corpus σ) (texts : List String) (host : Host σ)
    (grown : Index σ) : Prop where
  taken : ∃ index chunks reply, corpus.chunkIndex = some index ∧ corpus.cut texts = .ok chunks ∧
    batchOf chunks ≠ Table.empty ∧ index.replyTo (batchOf chunks) host = .ok reply ∧
    index.accept (batchOf chunks) reply = .ok grown
  saves : grown.options.autoSave = true
  unwritten : (grown.save host.files).1 = .error .io

theorem save_error {index : Index σ} {files : FileStore} {failure : Failure}
    (failed : (index.save files).1 = .error failure) : failure = .io := by
  unfold Index.save at failed
  split at failed
  · split at failed
    · cases failed
      rfl
    · cases failed
  · cases failed

theorem upserted_error {index grown : Index σ} {batch : Table String Properties}
    {host : Host σ} {files : FileStore} {outcome : Except Failure Unit} {failure : Failure}
    (ending : index.Upserted batch host outcome grown files)
    (failed : outcome = .error failure) :
    grown = index ∧ (∀ reply grown, index.replyTo batch host = .ok reply →
      index.accept batch reply ≠ .ok grown) ∨
    batch ≠ Table.empty ∧ failure = .io ∧ grown.options.autoSave = true ∧
      (grown.save host.files).1 = .error .io ∧
      ∃ reply, index.replyTo batch host = .ok reply ∧ index.accept batch reply = .ok grown := by
  cases ending with
  | nothing => cases failed
  | refused _ refusal =>
      refine .inl ⟨rfl, ?_⟩
      intro reply grown replied accepted
      rw [replied] at refusal
      have impossible := accepted.symm.trans refusal
      cases impossible
  | kept => cases failed
  | @saved reply _ filled replied accepted saves =>
      obtain rfl := save_error failed
      exact .inr ⟨filled, rfl, (Index.options_of_accept accepted).symm ▸ saves, failed,
        reply, replied, accepted⟩

/-- A failed insertion leaves the whole corpus as it was, or its index grew and was not saved. -/
theorem insert_error {corpus after : Corpus σ} {texts : List String} {host later : Host σ}
    {failure : Failure} (failed : corpus.insert texts host = (.error failure, after, later)) :
    after = corpus ∧ (∀ grown, ¬ corpus.Unsaved texts host grown) ∨
    failure = .io ∧ ∃ grown, corpus.Unsaved texts host grown ∧
      after = { corpus with chunkIndex := some grown } := by
  have ending := corpus.inserted texts host
  rw [failed] at ending
  cases ending with
  | uncut _ refusal =>
      refine .inl ⟨rfl, ?_⟩
      rintro grown ⟨⟨index, chunks, reply, -, pieces, -⟩, -⟩
      rw [refusal] at pieces
      cases pieces
  | @unindexed chunks _ _ later _ pieces refusal =>
      cases present : corpus.chunkIndex with
      | none =>
          rw [indexChunks_of_none present] at refusal
          cases refusal
      | some index =>
          rw [indexChunks_of_some present] at refusal
          obtain ⟨refused, rest⟩ := Prod.mk.inj refusal
          obtain ⟨rfl, -⟩ := Prod.mk.inj rest
          have ending := index.upserted (batchOf chunks) host
          rcases upserted_error ending refused with
            ⟨same, never⟩ | ⟨filled, io, saves, unwritten, reply, replied, accepted⟩
          · refine .inl ⟨?_, ?_⟩
            · rw [same, ← present]
            · rintro grown ⟨⟨index', chunks', reply, present', pieces', -, replied, accepted⟩, -⟩
              rw [present] at present'
              rw [pieces] at pieces'
              cases present'
              cases pieces'
              exact never reply grown replied accepted
          · exact .inr ⟨io, _, ⟨⟨index, chunks, reply, present, pieces, filled, replied,
              accepted⟩, saves, unwritten⟩, rfl⟩

theorem Unsaved.unique {corpus : Corpus σ} {texts : List String} {host : Host σ}
    {grown other : Index σ} (first : corpus.Unsaved texts host grown)
    (second : corpus.Unsaved texts host other) : grown = other := by
  obtain ⟨index, chunks, reply, present, pieces, -, replied, accepted⟩ := first.taken
  obtain ⟨index', chunks', reply', present', pieces', -, replied', accepted'⟩ := second.taken
  cases present.symm.trans present'
  cases pieces.symm.trans pieces'
  cases replied.symm.trans replied'
  cases accepted.symm.trans accepted'
  rfl

/-! ## An index that cannot save itself -/

/-- An index that keeps a snapshot and writes it by itself. -/
def savingOptions : IndexOptions := { backend := .file, autoSave := true }

/-- A host on which a directory stands where the snapshot is to be written. -/
def obstructed : Host Unit where
  files := ⟨Table.empty.insert ["chunks_nano-vectordb.json"] .directory, []⟩
  outside := ()

theorem reachable_saving : Reachable (sample savingOptions) := by
  have started : Corpus.start (sample savingOptions).options .simple (some (.uniform [1.0]))
      FileStore.empty = (.ok (sample savingOptions), FileStore.empty) := rfl
  exact .start started

/-- The chunk index of a corpus that could not save the chunks of a document of one word. -/
def unsavedIndex : Index Unit :=
  { Index.fresh chunkIndexName
      (indexOptions { workingDirectory := ⟨""⟩, index := savingOptions } chunkIndexName)
      (.uniform [1.0]) with
    records := Table.empty.insert (ContentId.forChunk "a").text ⟨[1.0], Table.empty⟩ }

theorem insert_obstructed :
    (sample savingOptions).insert ["a"] obstructed =
      (.error .io, { sample savingOptions with chunkIndex := some unsavedIndex }, obstructed) := by
  rw [insert_sample]
  rfl

theorem contents_unsavedIndex :
    contentsOf (some unsavedIndex) ≠ contentsOf (sample savingOptions).chunkIndex := by
  intro same
  have records : unsavedIndex.records = Table.empty :=
    congrArg Prod.snd (Option.some.inj same)
  have bound : unsavedIndex.records.get? (ContentId.forChunk "a").text =
      some ⟨[1.0], Table.empty⟩ :=
    Table.get?_insert_self Table.empty _ _
  rw [records, Table.get?_empty] at bound
  cases bound

theorem unsaved_obstructed :
    (sample savingOptions).Unsaved ["a"] obstructed unsavedIndex where
  taken := by
    have filled : batchOf sampleChunks ≠ Table.empty := by
      intro none
      have entries := congrArg Table.entries none
      cases entries
    exact ⟨_, sampleChunks, [[1.0]], rfl, cut_sample savingOptions, filled, rfl, rfl⟩
  saves := rfl
  unwritten := rfl

/-! ## What a failed insertion keeps -/

/-- A failed insertion leaves the documents and the chunk records, and the contents of the
chunk index exactly unless the index took chunks that change it and could not save itself. -/
theorem failed_insert_keeps_contents {corpus after : Corpus σ} {texts : List String}
    {host later : Host σ} {failure : Failure}
    (failed : corpus.insert texts host = (.error failure, after, later)) :
    after.documents = corpus.documents ∧ after.chunks = corpus.chunks ∧
    (contentsOf after.chunkIndex = contentsOf corpus.chunkIndex ↔
      ∀ grown, corpus.Unsaved texts host grown →
        contentsOf (some grown) = contentsOf corpus.chunkIndex) ∧
    ∀ grown, corpus.Unsaved texts host grown →
      failure = .io ∧ after.chunkIndex = some grown := by
  rcases insert_error failed with ⟨rfl, saved⟩ | ⟨rfl, grown, unsaved, rfl⟩
  · refine ⟨rfl, rfl, ⟨?_, ?_⟩, ?_⟩
    · intro _ grown unsaved
      exact absurd unsaved (saved grown)
    · intro _
      rfl
    · intro grown unsaved
      exact absurd unsaved (saved grown)
  · refine ⟨rfl, rfl, ⟨?_, ?_⟩, ?_⟩
    · intro same other unsaved'
      rw [← unsaved.unique unsaved']
      exact same
    · intro kept
      exact kept grown unsaved
    · intro other unsaved'
      rw [unsaved.unique unsaved']
      exact ⟨rfl, rfl⟩

/-- The insertion fails, and the chunk of its document stays in the index. -/
theorem failed_insert_keeps_contents_of_obstructed :
    ∃ (after : Corpus Unit) (later : Host Unit),
      (sample savingOptions).insert ["a"] obstructed = (.error .io, after, later) ∧
      (sample savingOptions).Unsaved ["a"] obstructed unsavedIndex ∧
      after.documents = (sample savingOptions).documents ∧
      after.chunks = (sample savingOptions).chunks ∧
      after.chunkIndex = some unsavedIndex ∧
      contentsOf after.chunkIndex ≠ contentsOf (sample savingOptions).chunkIndex := by
  obtain ⟨documents, chunks, contents, grown⟩ := failed_insert_keeps_contents insert_obstructed
  refine ⟨_, _, insert_obstructed, unsaved_obstructed, documents, chunks,
    (grown _ unsaved_obstructed).2, ?_⟩
  intro kept
  exact contents_unsavedIndex (contents.mp kept _ unsaved_obstructed)

/-- Not every failed insertion leaves the contents of the chunk index. -/
theorem failed_insert_may_change_contents :
    ¬ ∀ (corpus after : Corpus Unit) (texts : List String) (host later : Host Unit)
        (failure : Failure), Reachable corpus →
      corpus.insert texts host = (.error failure, after, later) →
      after.documents = corpus.documents ∧ after.chunks = corpus.chunks ∧
        contentsOf after.chunkIndex = contentsOf corpus.chunkIndex := by
  intro keeps
  obtain ⟨-, -, contents⟩ := keeps _ _ _ _ _ _ reachable_saving insert_obstructed
  exact contents_unsavedIndex contents

end Corpus

end Retrieval
