import Retrieval.Corpus.Answer
import Retrieval.Corpus.Insert
import Retrieval.Proofs.Index.Run
import Retrieval.Proofs.Window

/-!
# Runs of a corpus

The operations that a corpus offers, the corpora that runs of them lead to, and
the four ways in which an insertion ends (`Inserted`).  To the chunk index a run
of the corpus is a run of the index (`Reachable.chunkIndex_leads`).
-/

namespace Retrieval

namespace Corpus

variable {σ : Type}

/-- What can be asked of a corpus. -/
inductive Operation (σ : Type) where
  | insert (texts : List String)
  | answer (question : String) (options : QueryOptions)
  | save
  | setTokenizer (tokenizer : Tokenizer)
  | setGenerator (generator : Option (Generator σ))
  | setWindows (chunkSize chunkOverlap : Nat)

/-- The corpus and the host after an operation, whether it succeeds or not. -/
def Operation.perform (corpus : Corpus σ) (host : Host σ) : Operation σ → Corpus σ × Host σ
  | .insert texts => (corpus.insert texts host).2
  | .answer question options =>
      (corpus, { host with outside := (corpus.answer question options host.outside).2 })
  | .save => (corpus, { host with files := (corpus.save host.files).2 })
  | .setTokenizer tokenizer => (corpus.withTokenizer tokenizer, host)
  | .setGenerator generator => (corpus.withGenerator generator, host)
  | .setWindows chunkSize chunkOverlap =>
      match corpus.withWindows chunkSize chunkOverlap with
      | .error _ => (corpus, host)
      | .ok changed => (changed, host)

theorem withWindows_ok {corpus changed : Corpus σ} {chunkSize chunkOverlap : Nat}
    (accepted : corpus.withWindows chunkSize chunkOverlap = .ok changed) :
    chunkOverlap < chunkSize ∧
      changed = { corpus with options := { corpus.options with chunkSize, chunkOverlap } } := by
  unfold withWindows at accepted
  cases measured : Window.stride chunkSize chunkOverlap with
  | error failure =>
      rw [measured] at accepted
      cases accepted
  | ok step =>
      rw [measured] at accepted
      cases accepted
      exact ⟨Window.stride_ok measured, rfl⟩

theorem perform_setWindows (corpus : Corpus σ) (chunkSize chunkOverlap : Nat) (host : Host σ) :
    (Operation.perform corpus host (.setWindows chunkSize chunkOverlap)).1 = corpus ∨
    chunkOverlap < chunkSize ∧
      (Operation.perform corpus host (.setWindows chunkSize chunkOverlap)).1 =
        { corpus with options := { corpus.options with chunkSize, chunkOverlap } } := by
  unfold Operation.perform
  cases outcome : corpus.withWindows chunkSize chunkOverlap with
  | error failure =>
      left
      simp only [outcome]
  | ok changed =>
      right
      simp only [outcome]
      exact withWindows_ok outcome

/-- A corpus that was started and then went through any number of operations.  Each of them
finds the host in any state, so other users of the files and the providers are covered. -/
inductive Reachable : Corpus σ → Prop where
  | start {options : CorpusOptions} {tokenizer : Tokenizer} {embedder : Option (Embedder σ)}
      {files made : FileStore} {corpus : Corpus σ}
      (started : Corpus.start options tokenizer embedder files = (.ok corpus, made)) :
      Reachable corpus
  | perform {corpus : Corpus σ} (before : Reachable corpus) (operation : Operation σ)
      (host : Host σ) : Reachable (operation.perform corpus host).1

theorem start_ok {options : CorpusOptions} {tokenizer : Tokenizer}
    {embedder : Option (Embedder σ)} {files made : FileStore} {corpus : Corpus σ}
    (started : Corpus.start options tokenizer embedder files = (.ok corpus, made)) :
    ∃ chunkIndex entityIndex,
      startIndex options embedder made chunkIndexName options.indexesChunks = .ok chunkIndex ∧
      startIndex options embedder made entityIndexName options.indexesEntities =
        .ok entityIndex ∧
      corpus = {
        options, tokenizer, chunkIndex, entityIndex
        generator := none
        documents := Collection.empty "full_docs"
        chunks := Collection.empty "text_chunks"
        reports := Collection.empty "community_reports"
        graph := Graph.empty "chunk_entity_relation" } := by
  unfold start at started
  split at started
  · cases started
  · split at started
    · cases started
    · next later directories =>
      obtain ⟨result, rfl⟩ := Prod.mk.inj started
      unfold opened at result
      cases first : startIndex options embedder later chunkIndexName options.indexesChunks with
      | error failure =>
          rw [first] at result
          cases result
      | ok chunkIndex =>
          cases second : startIndex options embedder later entityIndexName
              options.indexesEntities with
          | error failure =>
              rw [first, second] at result
              cases result
          | ok entityIndex =>
              rw [first, second] at result
              cases result
              exact ⟨chunkIndex, entityIndex, rfl, rfl, rfl⟩

/-- A corpus is started with windows that move on, in a directory that is there. -/
theorem prepared_of_start {options : CorpusOptions} {tokenizer : Tokenizer}
    {embedder : Option (Embedder σ)} {files made : FileStore} {corpus : Corpus σ}
    (started : Corpus.start options tokenizer embedder files = (.ok corpus, made)) :
    options.chunkOverlap < options.chunkSize ∧
      files.makeDirectories options.workingDirectory = (true, made) := by
  unfold start at started
  cases measured : Window.stride options.chunkSize options.chunkOverlap with
  | error failure =>
      rw [measured] at started
      cases started
  | ok step =>
      rw [measured] at started
      cases directories : files.makeDirectories options.workingDirectory with
      | mk done later =>
          rw [directories] at started
          cases done with
          | false => cases started
          | true =>
              obtain ⟨-, rfl⟩ := Prod.mk.inj started
              exact ⟨Window.stride_ok measured, rfl⟩

/-- A corpus can be started where its windows move on, its directory can be made and its indices
can be started. -/
theorem start_of_indexes {options : CorpusOptions} {embedder : Option (Embedder σ)}
    {files made : FileStore} {chunkIndex entityIndex : Option (Index σ)}
    (smaller : options.chunkOverlap < options.chunkSize)
    (directories : files.makeDirectories options.workingDirectory = (true, made))
    (chunks : startIndex options embedder made chunkIndexName options.indexesChunks =
      .ok chunkIndex)
    (entities : startIndex options embedder made entityIndexName options.indexesEntities =
      .ok entityIndex) (tokenizer : Tokenizer) :
    Corpus.start options tokenizer embedder files =
      (.ok {
        options, tokenizer, chunkIndex, entityIndex
        generator := none
        documents := Collection.empty "full_docs"
        chunks := Collection.empty "text_chunks"
        reports := Collection.empty "community_reports"
        graph := Graph.empty "chunk_entity_relation" }, made) := by
  have measured : Window.stride options.chunkSize options.chunkOverlap =
      .ok (options.chunkSize - options.chunkOverlap) := if_pos smaller
  unfold start opened
  rw [measured, directories]
  dsimp only
  rw [chunks, entities]
  rfl

theorem startIndex_some {options : CorpusOptions} {embedder : Option (Embedder σ)}
    {files : FileStore} {indexName : String} {isWanted : Bool} {index : Index σ}
    (started : startIndex options embedder files indexName isWanted = .ok (some index)) :
    ∃ provider, embedder = some provider ∧
      Index.start indexName (indexOptions options indexName) provider files = .ok index := by
  unfold startIndex at started
  cases embedder with
  | none => cases started
  | some provider =>
      cases isWanted with
      | false => cases started
      | true =>
          dsimp only at started
          rw [if_pos rfl] at started
          cases made : Index.start indexName (indexOptions options indexName) provider files with
          | error failure =>
              rw [made] at started
              cases started
          | ok fresh =>
              rw [made] at started
              cases started
              exact ⟨provider, rfl, made⟩

/-! ## The ways in which an insertion ends -/

/-- The chunks that an insertion of some texts cuts, by identifier. -/
def cut (corpus : Corpus σ) (texts : List String) : Except Failure (Table String Chunk) :=
  Chunk.tableOf corpus.tokenizer corpus.options.chunkSize corpus.options.chunkOverlap
    (distinctDocuments texts)

/-- With a document to insert the chunks are cut, indexed and stored, in this order. -/
theorem insert_eq {corpus : Corpus σ} {texts : List String} (given : distinctDocuments texts ≠ [])
    (host : Host σ) :
    corpus.insert texts host =
      match corpus.cut texts with
      | .error failure => (.error failure, corpus, host)
      | .ok chunks =>
          match corpus.indexChunks chunks host with
          | (.error failure, indexed, later) => (.error failure, indexed, later)
          | (.ok _, indexed, later) =>
              (.ok ⟨(distinctDocuments texts).length, chunks.size⟩,
                indexed.store (distinctDocuments texts) chunks, later) := by
  unfold insert
  dsimp only
  rw [if_neg (by rwa [List.isEmpty_iff])]
  rfl

/-- How an insertion ends, with the corpus after it. -/
inductive Inserted (corpus : Corpus σ) (texts : List String) (host : Host σ) :
    Except Failure InsertSummary → Corpus σ → Prop where
  | nothing (absent : distinctDocuments texts = []) :
      Inserted corpus texts host (.ok ⟨0, 0⟩) corpus
  | uncut {failure : Failure} (given : distinctDocuments texts ≠ [])
      (refusal : corpus.cut texts = .error failure) :
      Inserted corpus texts host (.error failure) corpus
  | unindexed {chunks : Table String Chunk} {failure : Failure} {indexed : Corpus σ}
      {later : Host σ} (given : distinctDocuments texts ≠ [])
      (pieces : corpus.cut texts = .ok chunks)
      (refusal : corpus.indexChunks chunks host = (.error failure, indexed, later)) :
      Inserted corpus texts host (.error failure) indexed
  | stored {chunks : Table String Chunk} {indexed : Corpus σ} {later : Host σ}
      (given : distinctDocuments texts ≠ [])
      (pieces : corpus.cut texts = .ok chunks)
      (taken : corpus.indexChunks chunks host = (.ok (), indexed, later)) :
      Inserted corpus texts host (.ok ⟨(distinctDocuments texts).length, chunks.size⟩)
        (indexed.store (distinctDocuments texts) chunks)

theorem inserted (corpus : Corpus σ) (texts : List String) (host : Host σ) :
    Inserted corpus texts host (corpus.insert texts host).1 (corpus.insert texts host).2.1 := by
  by_cases absent : distinctDocuments texts = []
  · rw [insert, absent]
    exact .nothing absent
  · rw [insert_eq absent]
    cases pieces : corpus.cut texts with
    | error failure => exact .uncut absent pieces
    | ok chunks =>
        dsimp only
        cases outcome : corpus.indexChunks chunks host with
        | mk verdict rest =>
            obtain ⟨indexed, later⟩ := rest
            cases verdict with
            | error failure => exact .unindexed absent pieces outcome
            | ok done => exact .stored absent pieces outcome

theorem indexChunks_of_none {corpus : Corpus σ} (unindexed : corpus.chunkIndex = none)
    (chunks : Table String Chunk) (host : Host σ) :
    corpus.indexChunks chunks host = (.ok (), corpus, host) := by
  rw [indexChunks, unindexed]

theorem indexChunks_of_some {corpus : Corpus σ} {index : Index σ}
    (indexed : corpus.chunkIndex = some index) (chunks : Table String Chunk) (host : Host σ) :
    corpus.indexChunks chunks host =
      ((index.upsert (batchOf chunks) host).1,
        { corpus with chunkIndex := some (index.upsert (batchOf chunks) host).2.1 },
        (index.upsert (batchOf chunks) host).2.2) := by
  rw [indexChunks, indexed]

theorem indexChunks_eq (corpus : Corpus σ) (chunks : Table String Chunk) (host : Host σ) :
    ∃ index, (corpus.indexChunks chunks host).2.1 = { corpus with chunkIndex := index } := by
  cases present : corpus.chunkIndex with
  | none =>
      rw [indexChunks_of_none present]
      exact ⟨corpus.chunkIndex, rfl⟩
  | some index =>
      rw [indexChunks_of_some present]
      exact ⟨_, rfl⟩

/-! ## The run of the chunk index -/

theorem chunkIndex_indexChunks (corpus : Corpus σ) (chunks : Table String Chunk) (host : Host σ) :
    (corpus.indexChunks chunks host).2.1.chunkIndex =
      corpus.chunkIndex.map fun index => (index.upsert (batchOf chunks) host).2.1 := by
  cases present : corpus.chunkIndex with
  | none =>
      rw [indexChunks_of_none present]
      exact present
  | some index =>
      rw [indexChunks_of_some present]
      rfl

theorem chunkIndex_insert (corpus : Corpus σ) (texts : List String) (host : Host σ) :
    (corpus.insert texts host).2.1.chunkIndex = corpus.chunkIndex ∨
    ∃ batch, (corpus.insert texts host).2.1.chunkIndex =
      corpus.chunkIndex.map fun index => (index.upsert batch host).2.1 := by
  have ending := corpus.inserted texts host
  generalize (corpus.insert texts host).1 = outcome, (corpus.insert texts host).2.1 = after
    at ending ⊢
  cases ending with
  | nothing => exact .inl rfl
  | uncut => exact .inl rfl
  | @unindexed chunks failure indexed later _ _ refusal =>
      have taken := corpus.chunkIndex_indexChunks chunks host
      rw [refusal] at taken
      exact .inr ⟨batchOf chunks, taken⟩
  | @stored chunks indexed later _ _ stored =>
      have taken := corpus.chunkIndex_indexChunks chunks host
      rw [stored] at taken
      exact .inr ⟨batchOf chunks, taken⟩

/-- The chunk index of a corpus was started, and then went through a run of its own. -/
theorem Reachable.chunkIndex_leads {corpus : Corpus σ} (reached : Reachable corpus)
    {index : Index σ} (indexed : corpus.chunkIndex = some index) :
    ∃ options embedder files first,
      Index.start chunkIndexName options embedder files = .ok first ∧ first.Leads index := by
  induction reached generalizing index with
  | start started =>
      obtain ⟨chunkIndex, entityIndex, chunksStarted, -, rfl⟩ := start_ok started
      obtain rfl : chunkIndex = some index := indexed
      obtain ⟨provider, -, made⟩ := startIndex_some chunksStarted
      exact ⟨_, provider, _, index, made, .start⟩
  | @perform corpus _ operation host ih =>
      cases operation with
      | insert texts =>
          rcases corpus.chunkIndex_insert texts host with same | ⟨batch, grown⟩
          · exact ih (same.symm.trans indexed)
          · obtain ⟨earlier, present, rfl⟩ := Option.map_eq_some_iff.mp (grown.symm.trans indexed)
            obtain ⟨options, embedder, files, first, started, run⟩ := ih present
            exact ⟨options, embedder, files, first, started, run.perform (.upsert batch) host⟩
      | answer => exact ih indexed
      | save => exact ih indexed
      | setTokenizer => exact ih indexed
      | setGenerator => exact ih indexed
      | setWindows chunkSize chunkOverlap =>
          rcases corpus.perform_setWindows chunkSize chunkOverlap host with same | ⟨-, changed⟩
          · rw [same] at indexed
            exact ih indexed
          · rw [changed] at indexed
            exact ih indexed

/-! ## A corpus of one chunk -/

/-- A corpus as it is started with an index of some options, over an embedder that gives every
text the embedding of one place. -/
def sample (options : IndexOptions) : Corpus Unit where
  options := { workingDirectory := ⟨""⟩, index := options }
  tokenizer := .simple
  generator := none
  documents := Collection.empty "full_docs"
  chunks := Collection.empty "text_chunks"
  reports := Collection.empty "community_reports"
  graph := Graph.empty "chunk_entity_relation"
  chunkIndex := some (Index.fresh chunkIndexName
    (indexOptions { workingDirectory := ⟨""⟩, index := options } chunkIndexName)
    (.uniform [1.0]))
  entityIndex := none

/-- The chunks of a document of one word. -/
def sampleChunks : Table String Chunk :=
  Table.ofList [((ContentId.forChunk "a").text, ⟨1, "a", ContentId.forDocument "a", 0⟩)]

theorem cut_sample (options : IndexOptions) : (sample options).cut ["a"] = .ok sampleChunks := by
  have documents : distinctDocuments ["a"] = [Document.ofText "a"] := rfl
  have words : Tokenizer.plainWords "a" = ["a"] := by decide
  have windows : Window.stepping 1 1200 1100 (by decide) 0 = [⟨0, 1⟩] := by
    simp [Window.stepping]
  simp [cut, documents, sample, sampleChunks, Chunk.tableOf, Chunk.ofDocument, Document.ofText,
    Tokenizer.simple, Tokenizer.encodeWords, Tokenizer.windowText, words, Window.plan, windows,
    Window.slice, Chunk.id, bind, Except.bind, pure, Except.pure]

theorem insert_sample (options : IndexOptions) (host : Host Unit) :
    (sample options).insert ["a"] host =
      match (sample options).indexChunks sampleChunks host with
      | (.error failure, indexed, later) => (.error failure, indexed, later)
      | (.ok _, indexed, later) =>
          (.ok ⟨1, 1⟩, indexed.store [Document.ofText "a"] sampleChunks, later) := by
  have given : distinctDocuments ["a"] ≠ [] := List.cons_ne_nil (Document.ofText "a") []
  have documents : distinctDocuments ["a"] = [Document.ofText "a"] := rfl
  have size : sampleChunks.size = 1 := rfl
  rw [insert_eq given, cut_sample, documents]
  dsimp only
  rw [size]
  generalize (sample options).indexChunks sampleChunks host = outcome
  obtain ⟨verdict, indexed, later⟩ := outcome
  cases verdict <;> rfl

end Corpus

end Retrieval
