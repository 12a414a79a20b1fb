import Retrieval.Proofs.Corpus.Growth

/-!
# A corpus where there is no snapshot

Without a snapshot a corpus is started with an index that is empty.  Over an
embedder that maps texts, an insertion then adds a vector for each of its chunks.
-/

namespace Retrieval

namespace Embedder

/-- An embedder that maps texts and does nothing else. -/
def mapping (dimension : Nat) (embeddingOf : String → Embedding) : Embedder Unit where
  model := "mapping"
  dimension := dimension
  tokenLimit := defaultTokenLimit
  embed := fun texts outside => (.ok (texts.map embeddingOf), outside)

theorem mapping_maps {dimension : Nat} {embeddingOf : String → Embedding} (known : 0 < dimension)
    (length : ∀ text, (embeddingOf text).length = dimension) :
    (mapping dimension embeddingOf).Maps embeddingOf where
  known := known
  settled := fun _ _ => rfl
  length := length

theorem Maps.answersWith {σ : Type} {embedder : Embedder σ} {embeddingOf : String → Embedding}
    (maps : embedder.Maps embeddingOf) : embedder.AnswersWith embeddingOf := by
  intro texts outside reply answered
  rw [maps.settled] at answered
  exact (Except.ok.inj answered).symm

end Embedder

namespace Corpus

variable {σ : Type}

/-- The index that a corpus has where there is no snapshot. -/
def blankIndex (options : CorpusOptions) (embedder : Embedder σ) (indexName : String) : Index σ :=
  Index.fresh indexName (indexOptions options indexName) embedder

theorem backend_blankIndex (options : CorpusOptions) (embedder : Embedder σ)
    (indexName : String) :
    (blankIndex options embedder indexName).options.backend = options.index.backend := by
  rw [blankIndex, Index.fresh, indexOptions]

theorem file_blankIndex (options : CorpusOptions) (embedder : Embedder σ) (indexName : String) :
    (blankIndex options embedder indexName).options.file =
      indexFile options.workingDirectory indexName options.index.file := by
  rw [blankIndex, Index.fresh, indexOptions]

theorem autoSave_blankIndex (options : CorpusOptions) (embedder : Embedder σ)
    (indexName : String) :
    (blankIndex options embedder indexName).options.autoSave = options.index.autoSave := by
  rw [blankIndex, Index.fresh, indexOptions]

/-- The corpus that is started where there is no snapshot, with a generator. -/
def blank (options : CorpusOptions) (tokenizer : Tokenizer) (embedder : Embedder σ)
    (generator : Option (Generator σ)) : Corpus σ where
  options := options
  tokenizer := tokenizer
  generator := generator
  documents := Collection.empty "full_docs"
  chunks := Collection.empty "text_chunks"
  reports := Collection.empty "community_reports"
  graph := Graph.empty "chunk_entity_relation"
  chunkIndex :=
    if options.indexesChunks then some (blankIndex options embedder chunkIndexName) else none
  entityIndex :=
    if options.indexesEntities then some (blankIndex options embedder entityIndexName) else none

section Start

variable {options : CorpusOptions} {tokenizer : Tokenizer} {embedder : Embedder σ}
  {generator : Option (Generator σ)} {embeddingOf : String → Embedding} {files made : FileStore}
  {growth : Growth} {index : Index σ}

theorem chunkIndex_blank :
    (blank options tokenizer embedder generator).chunkIndex = some index ↔
      options.indexesChunks = true ∧ blankIndex options embedder chunkIndexName = index := by
  rw [blank, Option.ite_none_right_eq_some, Option.some.injEq]

theorem entityIndex_absorb_blank :
    ((blank options tokenizer embedder generator).absorb growth).entityIndex = some index ↔
      options.indexesEntities = true ∧ blankIndex options embedder entityIndexName = index := by
  rw [absorb, blank, Option.ite_none_right_eq_some, Option.some.injEq]

theorem chunkIndex_absorb_blank :
    ((blank options tokenizer embedder generator).absorb growth).chunkIndex = some index ↔
      options.indexesChunks = true ∧
        (blankIndex options embedder chunkIndexName).adding growth.vectors = index := by
  constructor
  · intro indexed
    obtain ⟨first, started, rfl⟩ := chunkIndex_absorb growth indexed
    obtain ⟨wanted, rfl⟩ := chunkIndex_blank.mp started
    exact ⟨wanted, rfl⟩
  · rintro ⟨wanted, rfl⟩
    have started : (blank options tokenizer embedder generator).chunkIndex =
        some (blankIndex options embedder chunkIndexName) :=
      chunkIndex_blank.mpr ⟨wanted, rfl⟩
    rw [absorb, started]
    rfl

theorem startIndex_eq {indexName : String} {isWanted : Bool} {index : Index σ}
    (started : isWanted = true →
      Index.start indexName (indexOptions options indexName) embedder files = .ok index) :
    startIndex options (some embedder) files indexName isWanted =
      .ok (if isWanted then some index else none) := by
  cases isWanted with
  | false => rfl
  | true =>
      rw [startIndex, if_pos rfl, started rfl]
      rfl

/-- Where there is no snapshot, or none is looked for, a corpus is started blank. -/
theorem start_eq_blank (smaller : options.chunkOverlap < options.chunkSize)
    (directories : files.makeDirectories options.workingDirectory = (true, made))
    (absent : ∀ indexName ∈ [chunkIndexName, entityIndexName],
      options.index.backend = .memory ∨
        made.contains (indexOptions options indexName).file = false) :
    Corpus.start options tokenizer (some embedder) files =
      (.ok (blank options tokenizer embedder none), made) := by
  have fresh {indexName : String} (isWanted : Bool)
      (listed : indexName ∈ [chunkIndexName, entityIndexName]) :
      startIndex options (some embedder) made indexName isWanted =
        .ok (if isWanted then some (blankIndex options embedder indexName) else none) := by
    refine startIndex_eq fun _ => Index.start_eq_fresh ?_
    rw [indexOptions]
    exact absent indexName listed
  have chunks := fresh options.indexesChunks List.mem_cons_self
  have entities := fresh options.indexesEntities (List.mem_cons_of_mem _ List.mem_cons_self)
  rw [start_of_indexes smaller directories chunks entities]
  rfl

theorem steady_blank (maps : embedder.Maps embeddingOf) :
    (blank options tokenizer embedder generator).Steady
      fun texts => .ok (texts.map embeddingOf) := by
  intro index indexed
  obtain ⟨-, rfl⟩ := chunkIndex_blank.mp indexed
  exact ⟨Nat.ne_of_gt maps.known, maps.settled⟩

/-- Over an embedder that maps texts, an insertion adds the chunks that it cuts. -/
theorem adds_blank (maps : embedder.Maps embeddingOf) {texts : List String}
    {pieces : Table String Chunk}
    (cut : Chunk.tableOf tokenizer options.chunkSize options.chunkOverlap
      (distinctDocuments texts) = .ok pieces) :
    (blank options tokenizer embedder generator).Adds (fun texts => .ok (texts.map embeddingOf))
      texts ⟨(distinctDocuments texts).length, pieces.size⟩
      (.ofChunks (indexOptions options chunkIndexName) embeddingOf texts pieces) := by
  refine adds_ofChunks ?_ cut
  intro index indexed
  obtain ⟨-, rfl⟩ := chunkIndex_blank.mp indexed
  exact ⟨rfl, rfl, maps⟩

end Start

/-! ## Two documents that begin alike -/

/-- Windows of so many tokens, none of them shared. -/
def windowed (size : Nat) (options : IndexOptions) : CorpusOptions :=
  { workingDirectory := ⟨""⟩, chunkSize := size, chunkOverlap := 0, index := options }

section Windowed

variable {size : Nat} {options : IndexOptions} {embedder : Embedder σ}
  {embeddingOf : String → Embedding} {batches : List (List String)}
  {summaries : List InsertSummary} {growth : Growth}

theorem reachable_windowed (sized : 0 < size) (inMemory : options.backend = .memory)
    (maps : embedder.Maps embeddingOf)
    (adds : (blank (windowed size options) .simple embedder none).AddsEach
      (fun texts => .ok (texts.map embeddingOf)) batches summaries growth) (outside : σ) :
    Reachable ((blank (windowed size options) .simple embedder none).absorb growth) := by
  have started : Corpus.start (windowed size options) .simple (some embedder) FileStore.empty =
      (.ok (blank (windowed size options) .simple embedder none), FileStore.empty) :=
    start_eq_blank sized rfl fun _ _ => .inl inMemory
  have saves : (blank (windowed size options) .simple embedder none).Saves FileStore.empty := by
    refine saves_of_memory (fun index indexed => ?_) FileStore.empty
    obtain ⟨-, rfl⟩ := chunkIndex_blank.mp indexed
    rw [backend_blankIndex]
    exact inMemory
  exact (Reachable.start started).absorb (steady_blank maps) adds saves outside

theorem insertEach_windowed (manual : options.autoSave = false)
    (maps : embedder.Maps embeddingOf)
    (adds : (blank (windowed size options) .simple embedder none).AddsEach
      (fun texts => .ok (texts.map embeddingOf)) batches summaries growth)
    (files : FileStore) (outside : σ) :
    ∃ host : Host σ, (blank (windowed size options) .simple embedder none).insertEach batches
        ⟨files, outside⟩ =
      (summaries.map .ok, (blank (windowed size options) .simple embedder none).absorb growth,
        host) ∧ host.files = files := by
  have stays : ∀ index, (blank (windowed size options) .simple embedder none).chunkIndex =
      some index → index.options.autoSave = false := by
    intro index indexed
    obtain ⟨-, rfl⟩ := chunkIndex_blank.mp indexed
    rw [autoSave_blankIndex]
    exact manual
  obtain ⟨host, run, leaves⟩ := insertEach_of_addsEach (steady_blank maps) adds
    (saves_of_manual stays (Host.mk files outside).files)
  exact ⟨host, run, leaves.same stays⟩

end Windowed

/-- The identifier of the chunk that both documents have. -/
def sharedId : String :=
  "chunk-c8687a08aa5d6ed2044328fa6a697ab8e96dc34291e8c2034ae8c38e6fcc6d65"

def earlierId : String :=
  "chunk-2e7d2c03a9507ae265ecf5b5356885a53393a2029d241394997265a1a25aefc6"

def laterId : String :=
  "chunk-18ac3e7343f016890c510e93f935261169d9e3f565436429830faf0934f4f8e4"

def earlierChunks : Table String Chunk :=
  Table.ofList
    [(sharedId, ⟨2, "a b", ContentId.forDocument "a b c", 0⟩),
      (earlierId, ⟨1, "c", ContentId.forDocument "a b c", 1⟩)]

def laterChunks : Table String Chunk :=
  Table.ofList
    [(sharedId, ⟨2, "a b", ContentId.forDocument "a b d", 0⟩),
      (laterId, ⟨1, "d", ContentId.forDocument "a b d", 1⟩)]

/-- The chunks of both documents, the common one as the later one has it. -/
def alikeChunks : Table String Chunk :=
  Table.ofList
    [(laterId, ⟨1, "d", ContentId.forDocument "a b d", 1⟩),
      (earlierId, ⟨1, "c", ContentId.forDocument "a b c", 1⟩),
      (sharedId, ⟨2, "a b", ContentId.forDocument "a b d", 0⟩)]

theorem tableOf_earlier :
    Chunk.tableOf .simple 2 0 (distinctDocuments ["a b c"]) = .ok earlierChunks := by
  decide +kernel

theorem tableOf_later :
    Chunk.tableOf .simple 2 0 (distinctDocuments ["a b d"]) = .ok laterChunks := by
  decide +kernel

theorem merge_alikeChunks :
    Table.empty.merge (earlierChunks.merge (laterChunks.merge Table.empty)) = alikeChunks := by
  decide +kernel

section Alike

variable (options : IndexOptions) (embedder : Embedder σ) (generator : Option (Generator σ))
  (embeddingOf : String → Embedding)

/-- What both documents add, one after the other. -/
def alikeGrowth : Growth :=
  let kept := indexOptions (windowed 2 options) chunkIndexName
  (Growth.ofChunks kept embeddingOf ["a b c"] earlierChunks).merge
    ((Growth.ofChunks kept embeddingOf ["a b d"] laterChunks).merge .none)

/-- A corpus that both documents were inserted into. -/
def alike : Corpus σ :=
  (blank (windowed 2 options) .simple embedder generator).absorb (alikeGrowth options embeddingOf)

theorem chunks_alike :
    (alike options embedder generator embeddingOf).chunks.records = alikeChunks :=
  merge_alikeChunks

theorem addsEach_alike {embedder : Embedder σ} {embeddingOf : String → Embedding}
    (maps : embedder.Maps embeddingOf) :
    (blank (windowed 2 options) .simple embedder generator).AddsEach
      (fun texts => .ok (texts.map embeddingOf)) [["a b c"], ["a b d"]] [⟨1, 2⟩, ⟨1, 2⟩]
      (alikeGrowth options embeddingOf) := by
  have earlier : (blank (windowed 2 options) .simple embedder generator).Adds _ _ _ _ :=
    adds_blank maps tableOf_earlier
  have later : (blank (windowed 2 options) .simple embedder generator).Adds _ _ _ _ :=
    adds_blank maps tableOf_later
  exact .more earlier (.more later .none)

end Alike

/-- Texts are alike but for the beginning that both documents have. -/
def alikeEmbedding (text : String) : Embedding :=
  if text = "a b" then [0.0, 1.0] else [1.0, 0.0]

theorem alikeEmbedding_maps : (Embedder.mapping 2 alikeEmbedding).Maps alikeEmbedding := by
  refine Embedder.mapping_maps (by decide) fun text => ?_
  unfold alikeEmbedding
  split <;> rfl

end Corpus

end Retrieval
