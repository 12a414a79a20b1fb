import Retrieval.Proofs.Corpus.Files
import Retrieval.Proofs.Corpus.Recall

/-!
# A corpus started again

Only the indices of a corpus are saved.  A corpus that is started over them has
vectors without chunks, so it finds nothing to answer from.  The insertions that
led to the vectors add the same vectors once more, and with them the documents
and the chunks, so in the end the corpus is what it was.  A query for what is not
there sorts all vectors all the same, and may break off.
-/

namespace Retrieval

namespace Index

variable {σ : Type}

theorem start_eq_saved {index : Index σ} {files : FileStore}
    (onFile : index.options.backend = .file)
    (stands : files.found? index.options.file = some (.file (.text index.snapshot.write)))
    (dimension : index.dimension = index.embedder.dimension)
    (fits : index.dimension < UInt64.size)
    (rereads : ∀ id stored, index.records.get? id = some stored →
      ∀ value ∈ stored.embedding, Rereads value) :
    Index.start index.name index.options index.embedder files = .ok index := by
  have understood : Snapshot.read? index.snapshot.write = some index.snapshot := by
    refine Snapshot.read?_write fits ?_
    rintro ⟨id, stored⟩ inside
    exact rereads id stored (Table.get?_eq_some_iff.mpr inside)
  have records : Table.ofList index.snapshot.records = index.records :=
    index.records.ofList_entries
  rw [start_of_found? onFile stands understood (.inr dimension.symm), records]
  rfl

end Index

/-- What a save keeps of some insertions. -/
def Growth.saved (growth : Growth) : Growth := { Growth.none with vectors := growth.vectors }

theorem Growth.saved_merge (growth : Growth) : growth.saved.merge growth = growth := by
  rw [merge, saved, none, Table.empty_merge, Table.empty_merge, Table.merge_self]

namespace Corpus

variable {σ : Type}

section Saved

variable {options : CorpusOptions} {tokenizer : Tokenizer} {embedder : Embedder σ}
  {generator : Option (Generator σ)} {embeddingOf : String → Embedding}
  {batches : List (List String)} {summaries : List InsertSummary} {growth : Growth}
  {files saved : FileStore}

theorem AddsEach.exists_text {corpus : Corpus σ} {index : Index σ}
    (adds : corpus.AddsEach (fun texts => .ok (texts.map embeddingOf)) batches summaries growth)
    (indexed : corpus.chunkIndex = some index) {id : String} {stored : StoredVector}
    (found : growth.vectors.get? id = some stored) :
    ∃ text, stored.embedding = embeddingOf text := by
  induction adds with
  | none => cases found
  | more first _ ih =>
      rw [Growth.merge, Table.get?_merge, Option.or_eq_some_iff] at found
      rcases found with later | ⟨-, earlier⟩
      · exact ih later
      · exact (first.stores index indexed).exists_text earlier

theorem saved_of_blank (onFile : options.index.backend = .file)
    (done : ((blank options tokenizer embedder generator).absorb growth).save files =
      (.ok (), saved)) {index : Index σ}
    (owned : ((blank options tokenizer embedder generator).absorb growth).chunkIndex = some index ∨
      ((blank options tokenizer embedder generator).absorb growth).entityIndex = some index) :
    saved.found? index.options.file = some (.file (.text index.snapshot.write)) ∧
      index.Saves saved := by
  refine saved_of_save ?_ ?_ done owned
  · rintro other (indexed | indexed)
    · obtain ⟨-, rfl⟩ := chunkIndex_absorb_blank.mp indexed
      rw [Index.options_adding, backend_blankIndex, onFile]
    · obtain ⟨-, rfl⟩ := entityIndex_absorb_blank.mp indexed
      rw [backend_blankIndex, onFile]
  · intro first second indexed alsoIndexed
    obtain ⟨-, rfl⟩ := chunkIndex_absorb_blank.mp indexed
    obtain ⟨-, rfl⟩ := entityIndex_absorb_blank.mp alsoIndexed
    rw [Index.options_adding, file_blankIndex, file_blankIndex]
    exact apart_indexFiles options.workingDirectory options.index.file

/-- A corpus that was blank can be started again after it was saved, with the same indices. -/
theorem start_of_save (onFile : options.index.backend = .file)
    (fits : embedder.dimension < UInt64.size)
    (rereads : ∀ text, ∀ value ∈ embeddingOf text, Rereads value)
    (smaller : options.chunkOverlap < options.chunkSize)
    (directories : saved.makeDirectories options.workingDirectory = (true, saved))
    (adds : (blank options tokenizer embedder generator).AddsEach
      (fun texts => .ok (texts.map embeddingOf)) batches summaries growth)
    (done : ((blank options tokenizer embedder generator).absorb growth).save files =
      (.ok (), saved)) :
    Corpus.start options tokenizer (some embedder) saved =
      (.ok ((blank options tokenizer embedder none).absorb growth.saved), saved) := by
  have chunks : startIndex options (some embedder) saved chunkIndexName options.indexesChunks =
      .ok (if options.indexesChunks then
        some ((blankIndex options embedder chunkIndexName).adding growth.vectors) else none) := by
    refine startIndex_eq fun wanted => ?_
    obtain ⟨stands, -⟩ := saved_of_blank onFile done
      (.inl (chunkIndex_absorb_blank.mpr ⟨wanted, rfl⟩))
    have kind : ((blankIndex options embedder chunkIndexName).adding
        growth.vectors).options.backend = .file := by
      rw [Index.options_adding, backend_blankIndex, onFile]
    refine Index.start_eq_saved kind stands rfl fits ?_
    intro id stored found
    change (Table.empty.merge growth.vectors).get? id = some stored at found
    rw [Table.empty_merge] at found
    obtain ⟨text, same⟩ := adds.exists_text (chunkIndex_blank.mpr ⟨wanted, rfl⟩) found
    rw [same]
    exact rereads text
  have entities : startIndex options (some embedder) saved entityIndexName
      options.indexesEntities = .ok (if options.indexesEntities then
        some (blankIndex options embedder entityIndexName) else none) := by
    refine startIndex_eq fun wanted => ?_
    obtain ⟨stands, -⟩ := saved_of_blank onFile done
      (.inr (entityIndex_absorb_blank.mpr ⟨wanted, rfl⟩))
    have kind : (blankIndex options embedder entityIndexName).options.backend = .file := by
      rw [backend_blankIndex, onFile]
    refine Index.start_eq_saved kind stands rfl fits ?_
    intro id stored found
    cases found
  have slot : ((blank options tokenizer embedder none).absorb growth.saved).chunkIndex =
      if options.indexesChunks then
        some ((blankIndex options embedder chunkIndexName).adding growth.vectors) else none := by
    rw [absorb, blank]
    cases options.indexesChunks <;> rfl
  rw [start_of_indexes smaller directories chunks entities, ← slot]
  rfl

/-- With nothing but the vectors that were saved there is nothing to answer from. -/
theorem noContext_of_saved (maps : embedder.Maps embeddingOf) (order : List (String × StoredVector))
    (question : String) {query : QueryOptions} (naive : query.mode = .naive) (outside : σ) :
    (((blank options tokenizer embedder generator).absorb growth.saved).answerThrough order question
      query outside).1 = .ok .noContext := by
  refine answerThrough_of_no_chunks rfl naive ?_
  intro index indexed
  obtain ⟨-, rfl⟩ := chunkIndex_absorb_blank.mp indexed
  rw [Index.queryThrough_fst]
  split
  · exact ⟨[], rfl⟩
  · rw [Index.queryEmbedding_of_maps maps rfl]
    exact ⟨_, rfl⟩

/-- Over the vectors that were saved the same insertions succeed, and lead to the same corpus. -/
theorem insertEach_of_saved (onFile : options.index.backend = .file)
    (maps : embedder.Maps embeddingOf)
    (adds : (blank options tokenizer embedder generator).AddsEach
      (fun texts => .ok (texts.map embeddingOf)) batches summaries growth)
    (done : ((blank options tokenizer embedder generator).absorb growth).save files =
      (.ok (), saved)) (outside : σ) :
    ∃ last, ((blank options tokenizer embedder generator).absorb growth.saved).insertEach batches
      ⟨saved, outside⟩ =
        (summaries.map .ok, (blank options tokenizer embedder generator).absorb growth, last) := by
  have saves : (blank options tokenizer embedder generator).Saves
      (Host.mk saved outside).files := by
    intro index indexed
    obtain ⟨wanted, rfl⟩ := chunkIndex_blank.mp indexed
    obtain ⟨-, saves⟩ := saved_of_blank onFile done
      (.inl (chunkIndex_absorb_blank.mpr ⟨wanted, rfl⟩))
    exact fun _ => (Index.saves_adding_iff growth.vectors).mp saves
  obtain ⟨last, rerun, -⟩ := insertEach_of_addsEach ((steady_blank maps).absorb growth.saved)
    ((addsEach_absorb_iff growth.saved).mpr adds) ((saves_absorb_iff growth.saved).mpr saves)
  rw [absorb_absorb, growth.saved_merge] at rerun
  exact ⟨last, rerun⟩

theorem of_embedded (maps : embedder.Maps embeddingOf) {holds : Index σ → Embedding → Prop}
    {question : String} {outside : σ}
    (given : ∀ index, ((blank options tokenizer embedder generator).absorb growth).chunkIndex =
      some index → holds index (embeddingOf question)) (index : Index σ) (embedding : Embedding)
    (indexed : ((blank options tokenizer embedder generator).absorb growth).chunkIndex = some index)
    (answered : (index.embedder.embed [question] outside).1.bind index.queryEmbedding =
      .ok embedding) : holds index embedding := by
  have known := given index indexed
  obtain ⟨-, rfl⟩ := chunkIndex_absorb_blank.mp indexed
  rw [Index.queryEmbedding_of_maps maps rfl] at answered
  cases answered
  exact known

end Saved

/-- Naive queries find nothing to answer from, in whatever order the index visits its records,
unless they break off.  They do not where the scores of the question are numbers, or few. -/
structure FindsNothing (corpus : Corpus σ) (embeddingOf : String → Embedding) : Prop where
  nothing : ∀ order question query outside, query.mode = .naive →
    ∀ response ∈ corpus.answerThrough? order question query outside, response.1 = .ok .noContext
  answered : ∀ order question query outside, corpus.Lists order →
    (∀ index, corpus.chunkIndex = some index → index.Sortable (embeddingOf question)) →
    ∃ response, corpus.answerThrough? order question query outside = some response

/-- A corpus has all that insertions made of another one, and answers alike where scores are
numbers, in whatever order either of the two visits the records. -/
structure CatchesUp (again grown : Corpus σ) (embeddingOf : String → Embedding) : Prop where
  documents : again.documents = grown.documents
  chunks : again.chunks = grown.chunks
  chunkIndex : again.chunkIndex = grown.chunkIndex
  answers : ∀ order order' question query outside, grown.Lists order → again.Lists order' →
    (∀ index, grown.chunkIndex = some index → index.Numeric (embeddingOf question)) →
    ∃ response, grown.answerThrough? order question query outside = some response ∧
      again.answerThrough? order' question query outside = some response

/-- A corpus over files was started where there was no snapshot, over an embedder that maps texts;
it made some insertions that all succeeded, and it was saved.  Started again, over the files that
it left, it has the same chunk index, and nothing to answer from.  The same insertions succeed
again, with the same summaries, and then the corpus is what it was.  The numbers of the embeddings
have to be finite, and read back from their numerals. -/
theorem restarted_corpus_catches_up {options : CorpusOptions} {tokenizer : Tokenizer}
    {embedder : Embedder σ} {embeddingOf : String → Embedding} {files made saved : FileStore}
    {first grown : Corpus σ} {outside : σ} {host : Host σ} {generator : Option (Generator σ)}
    {batches : List (List String)} {summaries : List InsertSummary}
    (onFile : options.index.backend = .file) (maps : embedder.Maps embeddingOf)
    (fits : embedder.dimension < UInt64.size)
    (finite : ∀ text, ∀ value ∈ embeddingOf text, value.isFinite = true)
    (rereads : ∀ text, ∀ value ∈ embeddingOf text, value.isFinite = true → Rereads value)
    (started : Corpus.start options tokenizer (some embedder) files = (.ok first, made))
    (absent : ∀ indexName ∈ [chunkIndexName, entityIndexName],
      made.contains (indexOptions options indexName).file = false)
    (run : (first.withGenerator generator).insertEach batches ⟨made, outside⟩ =
      (summaries.map .ok, grown, host))
    (done : grown.save host.files = (.ok (), saved)) :
    ∃ restored, Corpus.start options tokenizer (some embedder) saved = (.ok restored, saved) ∧
      restored.chunkIndex = grown.chunkIndex ∧
      (restored.withGenerator generator).FindsNothing embeddingOf ∧
      ∀ outside, ∃ again last,
        (restored.withGenerator generator).insertEach batches ⟨saved, outside⟩ =
          (summaries.map .ok, again, last) ∧
        again.CatchesUp grown embeddingOf := by
  obtain ⟨smaller, directories⟩ := prepared_of_start started
  have fresh : Corpus.start options tokenizer (some embedder) files =
      (.ok (blank options tokenizer embedder none), made) :=
    start_eq_blank smaller directories fun indexName listed => .inr (absent indexName listed)
  rw [started] at fresh
  obtain rfl := Except.ok.inj (congrArg Prod.fst fresh)
  have providing : (blank options tokenizer embedder none).withGenerator generator =
      blank options tokenizer embedder generator := rfl
  rw [providing] at run
  have kept := keeps_insertEach (blank options tokenizer embedder generator) batches
    ⟨made, outside⟩
  rw [run] at kept
  obtain ⟨growth, adds, rfl⟩ := addsEach_of_insertEach (steady_blank maps) run
  have there : saved.makeDirectories options.workingDirectory = (true, saved) := by
    have could : (files.makeDirectories options.workingDirectory).1 = true := by rw [directories]
    apply FileStore.makeDirectories_again could
    rw [directories]
    exact kept.trans (keeps_saveEach done)
  have restarted := start_of_save onFile fits
    (fun text value member => rereads text value member (finite text value member)) smaller there
    adds done
  refine ⟨_, restarted, rfl, ⟨?_, ?_⟩, ?_⟩
  · intro order question query outside naive response given
    rw [Option.mem_def, answerThrough?, Option.ite_none_right_eq_some] at given
    rw [← Option.some.inj given.2]
    exact noContext_of_saved maps order question naive outside
  · intro order question query outside lists sortable
    exact ⟨_, answerThrough?_of_sortable (of_embedded maps sortable) lists⟩
  · intro outside
    obtain ⟨last, rerun⟩ := insertEach_of_saved onFile maps adds done outside
    refine ⟨_, last, rerun, rfl, rfl, rfl, ?_⟩
    intro order order' question query outside lists lists' numeric
    exact ⟨_, answerThrough?_eq_answer (of_embedded maps numeric) lists,
      answerThrough?_eq_answer (of_embedded maps numeric) lists'⟩

/-- An index over files that keeps every match. -/
def kept : IndexOptions := { backend := .file, threshold := 0.0 }

/-- Two documents that begin alike, inserted one after the other before the restart and after it. -/
theorem restarted_corpus_catches_up_of_alike :
    ∃ (grown restored again : Corpus Unit) (host last : Host Unit) (saved : FileStore),
      (blank (windowed 2 kept) .simple (.mapping 2 alikeEmbedding)
        none).insertEach [["a b c"], ["a b d"]] ⟨FileStore.empty, ()⟩ =
          ([.ok ⟨1, 2⟩, .ok ⟨1, 2⟩], grown, host) ∧
      grown.chunks.size = 3 ∧
      grown.save host.files = (.ok (), saved) ∧
      Corpus.start (windowed 2 kept) .simple (some (.mapping 2 alikeEmbedding))
        saved = (.ok restored, saved) ∧
      restored.chunkIndex = grown.chunkIndex ∧
      (∀ question, (restored.withGenerator none).answer? question contextQuery () =
        some (.ok .noContext, ())) ∧
      (restored.withGenerator none).insertEach [["a b c"], ["a b d"]] ⟨saved, ()⟩ =
        ([.ok ⟨1, 2⟩, .ok ⟨1, 2⟩], again, last) ∧
      again.CatchesUp grown alikeEmbedding := by
  let options : CorpusOptions := windowed 2 kept
  let first : Corpus Unit := blank options .simple (.mapping 2 alikeEmbedding) none
  let grown : Corpus Unit :=
    alike kept (.mapping 2 alikeEmbedding) none alikeEmbedding
  have absent : ∀ indexName ∈ [chunkIndexName, entityIndexName],
      FileStore.empty.contains (indexOptions options indexName).file = false := by
    decide +kernel
  have started : Corpus.start options .simple (some (.mapping 2 alikeEmbedding)) FileStore.empty =
      (.ok first, FileStore.empty) :=
    start_eq_blank (by decide) rfl fun indexName listed => .inr (absent indexName listed)
  obtain ⟨host, run, unchanged⟩ := insertEach_windowed rfl alikeEmbedding_maps
    (addsEach_alike kept none alikeEmbedding_maps) FileStore.empty ()
  have written : (grown.save FileStore.empty).1 = .ok () := by decide +kernel
  obtain ⟨saved, done⟩ := exists_save written
  rw [← unchanged] at done
  have numbers : ∀ embedding ∈ [([0.0, 1.0] : Embedding), [1.0, 0.0]], ∀ value ∈ embedding,
      value.isFinite = true ∧ Rereads value := by
    unfold Rereads
    decide +kernel
  have listed (text : String) : alikeEmbedding text ∈ [([0.0, 1.0] : Embedding), [1.0, 0.0]] := by
    unfold alikeEmbedding
    split
    · exact List.mem_cons_self
    · exact List.mem_cons_of_mem _ List.mem_cons_self
  obtain ⟨restored, restarted, same, finds, catchesUp⟩ :=
    restarted_corpus_catches_up rfl alikeEmbedding_maps (by decide)
      (fun text value member => (numbers _ (listed text) value member).1)
      (fun text value member _ => (numbers _ (listed text) value member).2) started absent run done
  obtain ⟨again, last, rerun, caught⟩ := catchesUp ()
  refine ⟨grown, restored, again, host, last, saved, run, ?_, done, restarted, same, ?_, rerun,
    caught⟩
  · rw [Collection.size, chunks_alike]
    decide +kernel
  · intro question
    have few : ((blankIndex options (.mapping 2 alikeEmbedding) chunkIndexName).adding
        (alikeGrowth kept alikeEmbedding).vectors).records.size ≤ Sorting.insertionLimit := by
      decide +kernel
    obtain ⟨⟨response, ⟨⟩⟩, given⟩ := finds.answered _ question contextQuery ()
      (lists_visits (restored.withGenerator none)) (by
        intro index indexed
        obtain rfl := Option.some.inj (indexed.symm.trans same)
        exact .inr few)
    rw [answer?_eq_answerThrough?, given]
    exact congrArg (fun response => some (response, ())) (finds.nothing _ _ _ _ rfl _ given)

/-- Not every naive query of a corpus that was started again finds nothing: sorting the letters
breaks off here as well. -/
theorem restarted_query_may_be_unanswered :
    ¬ ∀ (options : CorpusOptions) (embedder : Embedder Unit) (embeddingOf : String → Embedding)
      (made saved : FileStore) (first grown : Corpus Unit) (host : Host Unit)
      (batches : List (List String)) (summaries : List InsertSummary),
      options.index.backend = .file → embedder.Maps embeddingOf →
      embedder.dimension < UInt64.size →
      (∀ text, ∀ value ∈ embeddingOf text, value.isFinite = true ∧ Rereads value) →
      Corpus.start options .simple (some embedder) FileStore.empty = (.ok first, made) →
      (∀ indexName ∈ [chunkIndexName, entityIndexName],
        made.contains (indexOptions options indexName).file = false) →
      first.insertEach batches ⟨made, ()⟩ = (summaries.map .ok, grown, host) →
      grown.save host.files = (.ok (), saved) →
      ∃ restored, Corpus.start options .simple (some embedder) saved = (.ok restored, saved) ∧
        ∀ question query, query.mode = .naive →
          ∃ later, restored.answer? question query () = some (.ok .noContext, later) := by
  intro answers
  let options : CorpusOptions := windowed 1 (spelledOptions .file)
  let grown : Corpus Unit :=
    (blank options .simple (.mapping 2 letterEmbedding) none).absorb (spelledGrowth .file)
  have numbers : ∀ embedding ∈ [Index.large, 0.0] :: [0.0, 1.0] :: letters.map Prod.snd,
      ∀ value ∈ embedding, value.isFinite = true ∧ Rereads value := by
    unfold Rereads
    decide +kernel
  have rereads (text : String) := numbers _ (letterEmbedding_mem text)
  have absent : ∀ indexName ∈ [chunkIndexName, entityIndexName],
      FileStore.empty.contains (indexOptions options indexName).file = false := by
    decide +kernel
  obtain ⟨host, run, unchanged⟩ := insertEach_windowed rfl letterEmbedding_maps
    (addsEach_spelled .file) FileStore.empty ()
  have written : (grown.save FileStore.empty).1 = .ok () := by decide +kernel
  obtain ⟨saved, done⟩ := exists_save written
  rw [← unchanged] at done
  have started : Corpus.start options .simple (some (.mapping 2 letterEmbedding))
      FileStore.empty = (.ok (blank options .simple (.mapping 2 letterEmbedding) none),
        FileStore.empty) :=
    start_eq_blank (by decide) rfl fun indexName listed => .inr (absent indexName listed)
  obtain ⟨restored, restarted, unfound⟩ := answers options _ letterEmbedding FileStore.empty saved
    _ grown host _ _ rfl letterEmbedding_maps (by decide) rereads started absent run done
  have again : Corpus.start options .simple (some (.mapping 2 letterEmbedding)) saved =
      (.ok ((blank options .simple (.mapping 2 letterEmbedding) none).absorb
        (spelledGrowth .file).saved), saved) :=
    start_of_save rfl (by decide) (fun text value member => (rereads text value member).2)
      (by decide) rfl (addsEach_spelled .file) done
  rw [again] at restarted
  obtain rfl := Except.ok.inj (congrArg Prod.fst restarted)
  obtain ⟨later, answered⟩ := unfound "?" contextQuery rfl
  rw [answer?_of_spelledIndex .file rfl] at answered
  cases answered

end Corpus

end Retrieval
