import Retrieval.Proofs.Corpus.Growth
import Retrieval.Proofs.Corpus.Recall
import Retrieval.Proofs.Index.Sized
import Retrieval.Proofs.Table.Size

/-!
# Texts inserted again

A text that occurs more than once in a call is inserted once, and a call for
several texts adds what calls for each of them add.  A call that succeeded can
be made again and changes nothing.
-/

namespace Retrieval

/-- Repetitions are erased behind a change as before it, if the change keeps the items apart. -/
theorem eraseDupsBy_loop_map {α β : Type} [BEq α] {same : β → β → Bool} {change : α → β}
    (items kept : List α) (apart : ∀ first ∈ items, ∀ second, second ∈ items ∨ second ∈ kept →
      same (change first) (change second) = (first == second)) :
    List.eraseDupsBy.loop same (items.map change) (kept.map change) =
      (List.eraseDupsBy.loop (· == ·) items kept).map change := by
  -- The loop looks an item up among those kept so far, so they vary in the induction.
  induction items generalizing kept with
  | nil => exact List.map_reverse.symm
  | cons first rest ih =>
      have seen : (kept.map change).any (same (change first)) = kept.any (first == ·) := by
        rw [List.any_map, Bool.eq_iff_iff, List.any_eq_true, List.any_eq_true]
        refine exists_congr fun second => and_congr_right fun member => ?_
        rw [Function.comp_apply, apart first List.mem_cons_self second (.inr member)]
      have later : ∀ item ∈ rest, ∀ second, second ∈ rest ∨ second ∈ first :: kept →
          same (change item) (change second) = (item == second) := by
        intro item member second inside
        refine apart item (List.mem_cons_of_mem first member) second ?_
        rcases inside with given | before
        · exact .inl (List.mem_cons_of_mem first given)
        · rcases List.mem_cons.mp before with rfl | earlier
          · exact .inl List.mem_cons_self
          · exact .inr earlier
      rw [List.map_cons, List.eraseDupsBy.loop, List.eraseDupsBy.loop, seen]
      cases kept.any (first == ·) with
      | false => exact ih (first :: kept) later
      | true =>
          refine ih kept ?_
          intro item member second inside
          exact later item member second (inside.imp_right (List.mem_cons_of_mem first))

namespace Chunk

variable {tokenizer : Tokenizer} {size overlap : Nat}

theorem exists_ofDocument
    (decodes : ∀ text windows, ∃ excerpts, tokenizer.decode text windows = .ok excerpts)
    (smaller : overlap < size) (document : Document) :
    ∃ chunks, ofDocument tokenizer size overlap document = .ok chunks :=
  exists_ofDocument_of_decoded smaller (decodes document.content _)

theorem tableOf_eq {chunksOf : Document → List Chunk}
    (cuts : ∀ document, ofDocument tokenizer size overlap document = .ok (chunksOf document))
    (documents : List Document) :
    tableOf tokenizer size overlap documents =
      .ok (Table.ofList
        ((documents.flatMap chunksOf).map fun chunk => (chunk.id.text, chunk))) := by
  have lists : documents.mapM (ofDocument tokenizer size overlap) =
      .ok (documents.map chunksOf) := by
    rw [funext cuts]
    exact List.mapM_pure
  exact tableOf_ok_iff.mpr ⟨_, lists, by rw [List.flatMap_def]⟩

end Chunk

/-- What some documents add, each with its chunks and each chunk with its embedding. -/
def Growth.ofDocuments (options : IndexOptions) (embeddingOf : String → Embedding)
    (chunksOf : Document → List Chunk) (documents : List Document) : Growth :=
  let chunks := Table.ofList
    ((documents.flatMap chunksOf).map fun chunk => (chunk.id.text, chunk))
  { documents := Table.ofList (documents.map fun document => (document.id.text, document))
    chunks
    vectors := (Corpus.batchOf chunks).map fun _ record =>
      Index.vectorOf options embeddingOf record }

theorem Growth.ofDocuments_append (options : IndexOptions) (embeddingOf : String → Embedding)
    (chunksOf : Document → List Chunk) (earlier later : List Document) :
    ofDocuments options embeddingOf chunksOf (earlier ++ later) =
      (ofDocuments options embeddingOf chunksOf earlier).merge
        (ofDocuments options embeddingOf chunksOf later) := by
  simp only [ofDocuments, merge, List.map_append, List.flatMap_append, Table.ofList_append,
    Corpus.batchOf, Table.map_merge]

theorem Growth.contains_chunks_ofDocuments {options : IndexOptions}
    {embeddingOf : String → Embedding} {chunksOf : Document → List Chunk}
    {documents : List Document} {id : String} :
    (ofDocuments options embeddingOf chunksOf documents).chunks.contains id = true ↔
      ∃ document ∈ documents, ∃ chunk ∈ chunksOf document, id = chunk.id.text := by
  constructor
  · intro present
    obtain ⟨chunk, found⟩ := Table.contains_iff.mp present
    obtain ⟨known, inside, same⟩ := List.mem_map.mp (Table.mem_of_get?_ofList found)
    cases same
    obtain ⟨document, given, member⟩ := List.mem_flatMap.mp inside
    exact ⟨document, given, chunk, member, rfl⟩
  · rintro ⟨document, given, chunk, member, rfl⟩
    exact Table.contains_ofList_of_mem (List.mem_map.mpr
      ⟨chunk, List.mem_flatMap.mpr ⟨document, given, member⟩, rfl⟩)

namespace Corpus

variable {σ : Type}

/-! ## Several texts -/

/-- Where the digests tell some texts apart, their documents are those of the texts without
repetitions. -/
theorem distinctDocuments_eq {texts : List String}
    (apart : ∀ first ∈ texts, ∀ second ∈ texts,
      ContentId.forDocument first = ContentId.forDocument second → first = second) :
    distinctDocuments texts = texts.eraseDups.map Document.ofText := by
  refine eraseDupsBy_loop_map texts [] ?_
  intro first member second inside
  have given : second ∈ texts := inside.resolve_right List.not_mem_nil
  rw [Bool.eq_iff_iff, beq_iff_eq, beq_iff_eq]
  constructor
  · exact apart first member second given
  · rintro rfl
    rfl

/-- The windows of a corpus always move on. -/
theorem Reachable.overlap_lt_size {corpus : Corpus σ} (reached : Reachable corpus) :
    corpus.options.chunkOverlap < corpus.options.chunkSize := by
  induction reached with
  | start started =>
      obtain ⟨smaller, -⟩ := prepared_of_start started
      obtain ⟨chunkIndex, entityIndex, -, -, rfl⟩ := start_ok started
      exact smaller
  | @perform corpus _ operation host ih =>
      cases operation with
      | insert texts =>
          obtain ⟨-, same, -⟩ := corpus.insert_cases texts host
          rw [Operation.perform, same]
          exact ih
      | answer => exact ih
      | save => exact ih
      | setTokenizer => exact ih
      | setGenerator => exact ih
      | setWindows chunkSize chunkOverlap =>
          rcases corpus.perform_setWindows chunkSize chunkOverlap host with
            same | ⟨smaller, changed⟩
          · rw [same]
            exact ih
          · rw [changed]
            exact smaller

section Documents

variable {corpus : Corpus σ} {options : IndexOptions} {embeddingOf : String → Embedding}
  {chunksOf : Document → List Chunk}

/-- Over an embedder that maps texts, an insertion adds its documents, their chunks and the
embeddings of these. -/
theorem adds_ofDocuments
    (maps : ∀ index, corpus.chunkIndex = some index → index.options = options ∧
      index.dimension = index.embedder.dimension ∧ index.embedder.Maps embeddingOf)
    (cuts : ∀ document, Chunk.ofDocument corpus.tokenizer corpus.options.chunkSize
      corpus.options.chunkOverlap document = .ok (chunksOf document))
    (texts : List String) :
    let growth := Growth.ofDocuments options embeddingOf chunksOf (distinctDocuments texts)
    corpus.Adds (fun texts => .ok (texts.map embeddingOf)) texts
      ⟨(distinctDocuments texts).length, growth.chunks.size⟩ growth :=
  adds_ofChunks maps (Chunk.tableOf_eq cuts _)

theorem addsEach_ofDocuments
    (maps : ∀ index, corpus.chunkIndex = some index → index.options = options ∧
      index.dimension = index.embedder.dimension ∧ index.embedder.Maps embeddingOf)
    (cuts : ∀ document, Chunk.ofDocument corpus.tokenizer corpus.options.chunkSize
      corpus.options.chunkOverlap document = .ok (chunksOf document))
    (texts : List String) :
    ∃ summaries, corpus.AddsEach (fun texts => .ok (texts.map embeddingOf))
      (texts.map fun text => [text]) summaries
      (Growth.ofDocuments options embeddingOf chunksOf (texts.map Document.ofText)) := by
  induction texts with
  | nil => exact ⟨[], .none⟩
  | cons text rest ih =>
      obtain ⟨summaries, others⟩ := ih
      have first := adds_ofDocuments maps cuts [text]
      have split := Growth.ofDocuments_append options embeddingOf chunksOf [Document.ofText text]
        (rest.map Document.ofText)
      rw [List.singleton_append] at split
      rw [List.map_cons, List.map_cons, split]
      exact ⟨_, .more first others⟩

/-- The identifiers of the chunks that some texts are cut into are those that are added. -/
theorem encard_chunkIds {texts : List String}
    (apart : ∀ first ∈ texts, ∀ second ∈ texts,
      ContentId.forDocument first = ContentId.forDocument second → first = second)
    (cuts : ∀ document, Chunk.ofDocument corpus.tokenizer corpus.options.chunkSize
      corpus.options.chunkOverlap document = .ok (chunksOf document)) :
    {id | ∃ text ∈ texts, ∃ chunks, Chunk.ofDocument corpus.tokenizer corpus.options.chunkSize
        corpus.options.chunkOverlap (Document.ofText text) = .ok chunks ∧
      ∃ chunk ∈ chunks, id = chunk.id.text}.encard =
      (Growth.ofDocuments options embeddingOf chunksOf (distinctDocuments texts)).chunks.size := by
  rw [← Table.encard_keys]
  congr 1
  ext id
  refine Iff.trans ?_ Growth.contains_chunks_ofDocuments.symm
  rw [distinctDocuments_eq apart]
  constructor
  · rintro ⟨text, given, chunks, cut, member⟩
    obtain rfl := Except.ok.inj ((cuts (Document.ofText text)).symm.trans cut)
    exact ⟨Document.ofText text, List.mem_map_of_mem (List.mem_eraseDups.mpr given), member⟩
  · rintro ⟨document, given, member⟩
    obtain ⟨text, kept, rfl⟩ := List.mem_map.mp given
    exact ⟨text, List.mem_eraseDups.mp kept, _, cuts _, member⟩

end Documents

/-- In memory, over an embedder that maps texts and a tokenizer that does not fail, an insertion
of some texts succeeds and leaves the corpus that insertions of one text each leave, in order and
each text once.  It counts the texts without repetitions, and the identifiers of their chunks.
The digests have to tell the texts apart. -/
theorem insert_eq_insertEach {corpus : Corpus σ} {embeddingOf : String → Embedding}
    (reached : Reachable corpus)
    (mapped : ∀ index, corpus.chunkIndex = some index →
      index.options.backend = .memory ∧ index.embedder.Maps embeddingOf)
    (decodes : ∀ text windows, ∃ excerpts,
      corpus.tokenizer.decode text windows = .ok excerpts)
    {texts : List String}
    (apart : ∀ first ∈ texts, ∀ second ∈ texts,
      ContentId.forDocument first = ContentId.forDocument second → first = second)
    (host other : Host σ) :
    ∃ (summary : InsertSummary) (summaries : List InsertSummary) (after : Corpus σ)
        (later last : Host σ),
      corpus.insert texts host = (.ok summary, after, later) ∧
      corpus.insertEach (texts.eraseDups.map fun text => [text]) other =
        (summaries.map .ok, after, last) ∧
      summary.documents = texts.eraseDups.length ∧
      {id | ∃ text ∈ texts, ∃ chunks, Chunk.ofDocument corpus.tokenizer corpus.options.chunkSize
          corpus.options.chunkOverlap (Document.ofText text) = .ok chunks ∧
        ∃ chunk ∈ chunks, id = chunk.id.text}.encard = summary.chunks := by
  choose chunksOf cuts using fun document =>
    Chunk.exists_ofDocument decodes reached.overlap_lt_size document
  obtain ⟨options, sameOptions⟩ : ∃ options, ∀ index, corpus.chunkIndex = some index →
      index.options = options := by
    cases present : corpus.chunkIndex with
    | none => exact ⟨{}, fun _ absent => nomatch absent⟩
    | some index => exact ⟨index.options, fun _ same => by cases same; rfl⟩
  have dimension (index : Index σ) (indexed : corpus.chunkIndex = some index) :
      index.dimension = index.embedder.dimension :=
    reached.dimension_of_embedder indexed (Nat.ne_of_gt (mapped index indexed).2.known)
  have maps (index : Index σ) (indexed : corpus.chunkIndex = some index) :
      index.options = options ∧ index.dimension = index.embedder.dimension ∧
        index.embedder.Maps embeddingOf :=
    ⟨sameOptions index indexed, dimension index indexed, (mapped index indexed).2⟩
  have steady : corpus.Steady fun texts => .ok (texts.map embeddingOf) := by
    intro index indexed
    have known := Nat.ne_of_gt (mapped index indexed).2.known
    exact ⟨dimension index indexed ▸ known, (mapped index indexed).2.settled⟩
  have saves (files : FileStore) : corpus.Saves files :=
    saves_of_memory (fun index indexed => (mapped index indexed).1) files
  have documents := distinctDocuments_eq apart
  have adds := adds_ofDocuments maps cuts texts
  obtain ⟨summaries, addsEach⟩ := addsEach_ofDocuments maps cuts texts.eraseDups
  rw [← documents] at addsEach
  obtain ⟨later, inserted, -⟩ := insert_of_adds steady adds (saves host.files)
  obtain ⟨last, run, -⟩ := insertEach_of_addsEach steady addsEach (saves other.files)
  refine ⟨_, summaries, _, later, last, inserted, run, ?_, encard_chunkIds apart cuts⟩
  rw [documents, List.length_map]

/-- Of three texts the last is the first one again. -/
theorem insert_eq_insertEach_of_repetition :
    ∃ (corpus after : Corpus Unit) (summary : InsertSummary) (summaries : List InsertSummary)
        (later last : Host Unit),
      Reachable corpus ∧
      corpus.insert ["a", "b", "a"] ⟨FileStore.empty, ()⟩ = (.ok summary, after, later) ∧
      corpus.insertEach [["a"], ["b"]] ⟨FileStore.empty, ()⟩ =
        (summaries.map .ok, after, last) ∧
      summary.documents = 2 := by
  have started : Corpus.start (sample {}).options .simple (some (.uniform [1.0]))
      FileStore.empty = (.ok (sample {}), FileStore.empty) := rfl
  have mapped : ∀ index, (sample {}).chunkIndex = some index →
      index.options.backend = .memory ∧ index.embedder.Maps fun _ => [1.0] := by
    intro index indexed
    cases indexed
    exact ⟨rfl, Embedder.uniform_maps (List.cons_ne_nil _ _)⟩
  have decodes : ∀ text windows, ∃ excerpts,
      (sample {}).tokenizer.decode text windows = .ok excerpts := fun _ _ => ⟨_, rfl⟩
  have digests : ContentId.forDocument "a" ≠ ContentId.forDocument "b" := by decide +kernel
  have apart : ∀ first ∈ ["a", "b", "a"], ∀ second ∈ ["a", "b", "a"],
      ContentId.forDocument first = ContentId.forDocument second → first = second := by
    simp [digests, digests.symm]
  obtain ⟨summary, summaries, after, later, last, inserted, run, documents, -⟩ :=
    insert_eq_insertEach (.start started) mapped decodes apart ⟨FileStore.empty, ()⟩
      ⟨FileStore.empty, ()⟩
  exact ⟨sample {}, after, summary, summaries, later, last, .start started, inserted, run,
    documents⟩

/-! ## A call made again -/

/-- In memory, over an embedder that tells a dimension and answers alike to the same texts, an
insertion that succeeded succeeds again, with the same summary, and leaves the corpus as it is. -/
theorem insert_again {corpus after : Corpus σ}
    {answer : List String → Except Failure (List Embedding)} (reached : Reachable corpus)
    (settled : ∀ index, corpus.chunkIndex = some index → index.options.backend = .memory ∧
      0 < index.embedder.dimension ∧ index.embedder.Settled answer)
    {texts : List String} {summary : InsertSummary} {host later : Host σ}
    (done : corpus.insert texts host = (.ok summary, after, later)) (other : Host σ) :
    ∃ last, after.insert texts other = (.ok summary, after, last) := by
  have steady : corpus.Steady answer := by
    intro index indexed
    obtain ⟨-, known, alike⟩ := settled index indexed
    have dimension := reached.dimension_of_embedder indexed (Nat.ne_of_gt known)
    exact ⟨dimension ▸ Nat.ne_of_gt known, alike⟩
  have saves : corpus.Saves other.files :=
    saves_of_memory (fun index indexed => (settled index indexed).1) other.files
  obtain ⟨growth, adds, rfl⟩ := adds_of_insert steady done
  obtain ⟨last, again, -⟩ := insert_of_adds (steady.absorb growth)
    ((adds_absorb_iff growth).mpr adds) ((saves_absorb_iff growth).mpr saves)
  rw [absorb_self] at again
  exact ⟨last, again⟩

/-- A corpus over an embedder that gives no embedding for most texts. -/
def fickleSample : Corpus Unit :=
  { sample {} with
    chunkIndex := some (Index.fresh chunkIndexName (indexOptions (sample {}).options chunkIndexName)
      .fickle) }

/-- A document whose chunk has zeros for an embedding is inserted twice. -/
theorem insert_again_of_fickle :
    ∃ (after : Corpus Unit) (index : Index Unit) (later last : Host Unit),
      Reachable fickleSample ∧
      fickleSample.insert ["a"] ⟨FileStore.empty, ()⟩ = (.ok ⟨1, 1⟩, after, later) ∧
      after.chunkIndex = some index ∧
      index.records.get? (ContentId.forChunk "a").text = some ⟨[0.0, 0.0], Table.empty⟩ ∧
      after.insert ["a"] ⟨FileStore.empty, ()⟩ = (.ok ⟨1, 1⟩, after, last) := by
  have started : Corpus.start (sample {}).options .simple (some .fickle) FileStore.empty =
      (.ok fickleSample, FileStore.empty) := rfl
  have settled : ∀ index, fickleSample.chunkIndex = some index →
      index.options.backend = .memory ∧ 0 < index.embedder.dimension ∧
        index.embedder.Settled fun texts => .ok (if texts = ["x"] then [[1.0]] else []) := by
    intro index indexed
    cases indexed
    exact ⟨rfl, by decide, fun _ _ => rfl⟩
  have cut : fickleSample.cut ["a"] = .ok sampleChunks := cut_sample {}
  obtain ⟨after, index, later, inserted, indexed, stored⟩ :
      ∃ (after : Corpus Unit) (index : Index Unit) (later : Host Unit),
        fickleSample.insert ["a"] ⟨FileStore.empty, ()⟩ = (.ok ⟨1, 1⟩, after, later) ∧
        after.chunkIndex = some index ∧
        index.records.get? (ContentId.forChunk "a").text =
          some ⟨[0.0, 0.0], Table.empty⟩ := by
    rw [insert_eq_of_cut cut]
    exact ⟨_, _, _, rfl, rfl, Table.get?_insert_self Table.empty _ _⟩
  obtain ⟨last, again⟩ :=
    insert_again (.start started) settled inserted ⟨FileStore.empty, ()⟩
  exact ⟨after, index, later, last, .start started, inserted, indexed, stored, again⟩

end Corpus

end Retrieval
