import Retrieval.Proofs.Corpus.Agreement
import Retrieval.Proofs.Corpus.Visits
import Retrieval.Proofs.Index.Snapshot

/-!
# Nothing inserted is lost

Over an embedder that can be depended on, a query with a threshold that keeps
everything matches every record of the chunk index.  Its records are those of the
chunks, so with a limit and a budget for all of them the context holds every chunk
exactly once.  Only sorting may stand in the way: it may break off among many
scores some of which are no numbers.
-/

namespace Retrieval

/-- The embedder tells a dimension, and answers each text with one embedding that has it. -/
structure Embedder.Dependable {σ : Type} (embedder : Embedder σ) : Prop where
  known : 0 < embedder.dimension
  answers : ∀ texts outside, ∃ reply, (embedder.embed texts outside).1 = .ok reply ∧
    reply.length = texts.length ∧ ∀ embedding ∈ reply, embedding.length = embedder.dimension

theorem Embedder.Maps.dependable {σ : Type} {embedder : Embedder σ}
    {embeddingOf : String → Embedding} (maps : embedder.Maps embeddingOf) :
    embedder.Dependable where
  known := maps.known
  answers := by
    intro texts outside
    refine ⟨texts.map embeddingOf, maps.settled texts outside, List.length_map _, ?_⟩
    intro embedding member
    obtain ⟨text, -, rfl⟩ := List.mem_map.mp member
    exact maps.length text

namespace Table

variable {κ β : Type} [Ord κ] [Std.TransOrd κ] [Std.LawfulEqOrd κ]

theorem filterMap_get?_keys (table : Table κ β) :
    table.keys.filterMap table.get? = table.values := by
  have found : ∀ entry ∈ table.entries, table.get? entry.1 = some entry.2 :=
    fun entry inside => get?_eq_some_iff.mpr inside
  rw [keys, values, List.filterMap_map, ← List.filterMap_eq_map]
  exact List.filterMap_congr found

end Table

namespace Index

variable {σ : Type}

/-- Over an embedder that maps texts, a query is put with the embedding of its text. -/
theorem queryEmbedding_of_maps {index : Index σ} {embeddingOf : String → Embedding}
    (maps : index.embedder.Maps embeddingOf)
    (dimension : index.dimension = index.embedder.dimension) (text : String) (outside : σ) :
    (index.embedder.embed [text] outside).1.bind index.queryEmbedding =
      .ok (embeddingOf text) := by
  have length : (embeddingOf text).length = index.dimension :=
    (maps.length text).trans dimension.symm
  rw [maps.settled]
  exact if_pos length

theorem candidates_of_threshold {options : IndexOptions} (threshold : options.threshold ≤ 0.0)
    (query : Embedding) (records : List (String × StoredVector)) :
    candidates options query records = records.map fun entry =>
      ⟨entry.1, options.metric.score query entry.2.embedding, entry.2.shown⟩ := by
  refine List.filter_eq_self.mpr ?_
  intro found _
  rw [keeps, decide_eq_true threshold, Bool.true_or]

/-- Without a threshold and with room for all of them, every record is matched once. -/
theorem ids_ranked_perm {options : IndexOptions} (threshold : options.threshold ≤ 0.0)
    {query : Embedding} {limit : Nat} {records : List (String × StoredVector)}
    (room : records.length ≤ limit)
    (sorts : (Sorting.stable? Match.precedes (candidates options query records)).isSome = true) :
    ((ranked options query limit records).map Match.id).Perm (records.map (·.1)) := by
  have every := candidates_of_threshold threshold query records
  obtain ⟨sorted, done⟩ := Option.isSome_iff_exists.mp sorts
  have same := (Sorting.stable?_sorts Match.precedes).perm done
  have whole : sorted.length ≤ limit := by
    rwa [same.length_eq, every, List.length_map]
  rw [ranked_of_stable? done, List.take_of_length_le whole]
  have ids := same.map Match.id
  rwa [every, List.map_map] at ids

theorem exists_queryEmbedding {index : Index σ} (dependable : index.embedder.Dependable)
    (dimension : index.dimension = index.embedder.dimension) (text : String) (outside : σ) :
    ∃ embedding, (index.embedder.embed [text] outside).1.bind index.queryEmbedding =
      .ok embedding := by
  obtain ⟨reply, answered, one, lengths⟩ := dependable.answers [text] outside
  obtain ⟨embedding, rfl⟩ := List.length_eq_one_iff.mp one
  refine ⟨embedding, ?_⟩
  rw [answered]
  exact if_pos ((lengths embedding List.mem_cons_self).trans dimension.symm)

end Index

namespace Corpus

variable {σ : Type}

theorem tokensOf_perm {first second : List Chunk} (same : first.Perm second) :
    tokensOf first = tokensOf second :=
  (same.map Chunk.tokens).sum_eq

theorem affordable_of_tokensOf_le {budget : Nat} {chunks : List Chunk}
    (paid : tokensOf chunks ≤ budget) : affordable budget chunks = chunks := by
  have longest := longestWithin_affordable budget chunks
  exact longest.begins.eq_of_length_le (longest.longest chunks List.prefix_rfl paid).length_le

theorem retrieved_perm {corpus : Corpus σ} {found : List Match}
    (ids : (found.map Match.id).Perm corpus.chunks.records.keys) :
    (corpus.retrieved found).Perm corpus.chunks.records.values := by
  have chunks := ids.filterMap corpus.chunks.records.get?
  rw [List.filterMap_map, Table.filterMap_get?_keys] at chunks
  exact chunks

section Run

variable {corpus : Corpus σ} {index : Index σ}

theorem Reachable.dimension_of_embedder (reached : Reachable corpus)
    (indexed : corpus.chunkIndex = some index) (known : index.embedder.dimension ≠ 0) :
    index.dimension = index.embedder.dimension := by
  obtain ⟨options, embedder, files, first, started, run⟩ := reached.chunkIndex_leads indexed
  have sameEmbedder : index.embedder = embedder :=
    run.embedder_eq.trans (Index.embedder_of_start started)
  rw [sameEmbedder] at known ⊢
  exact Index.dimension_of_embedder started run known

theorem Reachable.keys_eq (reached : Reachable corpus) (indexed : corpus.chunkIndex = some index)
    (inMemory : index.options.backend = .memory) :
    index.records.keys = corpus.chunks.records.keys :=
  Table.keys_eq_of_contains (reached.indexAgrees index indexed inMemory).contains_eq

/-- The response to a query that misses no chunk: all of them, each of them once, or that there
are none. -/
structure Recalls (corpus : Corpus σ) (response : Except Failure Response) : Prop where
  none : corpus.chunks.records = Table.empty → response = .ok .noContext
  all : corpus.chunks.records ≠ Table.empty →
    ∃ chunks : List Chunk, chunks.Perm corpus.chunks.records.values ∧
      response = .ok (.context (Prompt.chunkSeparator.intercalate (chunks.map Chunk.content)))

/-- A query that matches every record and pays for every chunk answers with all of them, unless
sorting breaks off. -/
theorem Reachable.recalls (reached : Reachable corpus) (indexed : corpus.chunkIndex = some index)
    (inMemory : index.options.backend = .memory) (dependable : index.embedder.Dependable)
    (threshold : index.options.threshold ≤ 0.0) {options : QueryOptions}
    (mode : options.mode = .naive) (wanted : options.contextOnly = true)
    (room : corpus.chunks.size ≤ options.matchLimit)
    (paid : tokensOf corpus.chunks.records.values ≤ options.contextBudget)
    {order : List (String × StoredVector)} (lists : corpus.Lists order) {question : String}
    {outside : σ} (ends : corpus.ends order question options outside = true) :
    corpus.Recalls (corpus.answerThrough order question options outside).1 := by
  have keys := reached.keys_eq indexed inMemory
  have visits := lists index indexed
  obtain ⟨embedding, embedded⟩ := Index.exists_queryEmbedding dependable
    (reached.dimension_of_embedder indexed (Nat.ne_of_gt dependable.known)) question outside
  constructor
  case none =>
    intro none
    refine answerThrough_of_no_chunks none mode ?_
    intro other present
    obtain rfl := Option.some.inj (indexed.symm.trans present)
    rw [Index.queryThrough_fst, embedded]
    split
    · exact ⟨[], rfl⟩
    · exact ⟨_, rfl⟩
  case all =>
    intro filled
    have size : index.records.size = corpus.chunks.size := by
      rw [← index.records.length_keys, keys, Table.length_keys]
      rfl
    have asked : ¬ (index.dimension = 0 ∨ index.records.isEmpty) := by
      rintro (zero | empty)
      · rw [reached.dimension_of_embedder indexed (Nat.ne_of_gt dependable.known)] at zero
        exact Nat.ne_of_gt dependable.known zero
      · rw [Table.isEmpty_iff, ← Table.size_eq_zero_iff, size] at empty
        exact filled (corpus.chunks.records.size_eq_zero_iff.mp empty)
    have sorts : (Sorting.stable? Match.precedes
        (Index.candidates index.options embedding order)).isSome = true := by
      rw [Corpus.ends, mode, indexed] at ends
      rwa [← Index.ends_eq_isSome embedded asked]
    have ids := Index.ids_ranked_perm threshold
      (visits.length_eq.trans_le (size.trans_le room)) sorts
    have retrieved := retrieved_perm (ids.trans ((visits.map Prod.fst).trans (.of_eq keys)))
    have given : corpus.retrieved
        (Index.ranked index.options embedding options.matchLimit order) ≠ [] := by
      intro none
      have length := retrieved.length_eq
      rw [none, Table.values, List.length_map] at length
      exact filled (corpus.chunks.records.size_eq_zero_iff.mp length.symm)
    have matched := Index.queryThrough_ok embedded asked order options.matchLimit
    refine ⟨_, retrieved, ?_⟩
    rw [← QueryOptions.forContext_self mode wanted]
    refine answerThrough_context_iff.mpr
      ⟨index, _, indexed, congrArg Prod.fst matched, given, ?_⟩
    rw [assembleContext_eq, affordable_of_tokensOf_le ((tokensOf_perm retrieved).trans_le paid)]
    rfl

/-- A query that matches every record and pays for every chunk misses none of them, in whatever
order the index visits its records and whatever their scores, if it is answered.  It is answered
if the scores are numbers, or few. -/
theorem answer_recalls_chunks (reached : Reachable corpus)
    (indexed : corpus.chunkIndex = some index) (inMemory : index.options.backend = .memory)
    (dependable : index.embedder.Dependable) (threshold : index.options.threshold ≤ 0.0)
    {options : QueryOptions} (mode : options.mode = .naive) (wanted : options.contextOnly = true)
    (room : corpus.chunks.size ≤ options.matchLimit)
    (paid : tokensOf corpus.chunks.records.values ≤ options.contextBudget)
    {order : List (String × StoredVector)} (lists : corpus.Lists order) (question : String)
    (outside : σ) :
    (∀ response ∈ corpus.answerThrough? order question options outside,
      corpus.Recalls response.1) ∧
    ((∀ embedding, (index.embedder.embed [question] outside).1.bind index.queryEmbedding =
        .ok embedding → index.Sortable embedding) →
      ∃ response, corpus.answerThrough? order question options outside = some response) := by
  constructor
  · intro response given
    rw [Option.mem_def, answerThrough?, Option.ite_none_right_eq_some] at given
    obtain ⟨ends, same⟩ := given
    rw [← Option.some.inj same]
    exact reached.recalls indexed inMemory dependable threshold mode wanted room paid lists ends
  · intro sortable
    refine ⟨_, answerThrough?_of_sortable ?_ lists⟩
    intro other embedding present answered
    obtain rfl := Option.some.inj (indexed.symm.trans present)
    exact sortable embedding answered

end Run

/-- A query for the context of up to thirty chunks. -/
def contextQuery : QueryOptions := { mode := .naive, contextOnly := true, matchLimit := 30 }

/-- Texts whose embeddings have scores that are numbers are put to an index over them. -/
theorem Reachable.numeric {corpus : Corpus σ} {index : Index σ} {embeddingOf : String → Embedding}
    (reached : Reachable corpus) (indexed : corpus.chunkIndex = some index)
    (inMemory : index.options.backend = .memory) (maps : index.embedder.Maps embeddingOf)
    (numbers : ∀ first second,
      (index.options.metric.score (embeddingOf first) (embeddingOf second)).isNaN = false)
    (question : String) : index.Numeric (embeddingOf question) := by
  intro _ id stored found
  have agrees := reached.indexAgrees index indexed inMemory
  obtain ⟨chunk, present⟩ := Table.contains_iff.mp
    ((agrees.contains_eq id).symm.trans (Table.contains_iff.mpr ⟨stored, found⟩))
  have described := agrees.related_of_get? found present
  rw [described.embedding embeddingOf maps.answersWith]
  exact numbers question chunk.content

theorem alikeEmbedding_numbers (first second : String) :
    (Metric.cosine.score (alikeEmbedding first) (alikeEmbedding second)).isNaN = false := by
  unfold alikeEmbedding
  split <;> split <;> decide +kernel

/-- The chunk that two documents share is recalled once, in every order of visits. -/
theorem answer_recalls_chunks_of_alike :
    ∃ corpus : Corpus Unit, Reachable corpus ∧ corpus.chunks.size = 3 ∧
      ∀ order question, corpus.Lists order →
        ∃ contents : List String, contents.Perm ["a b", "c", "d"] ∧
          corpus.answerThrough? order question contextQuery () =
            some (.ok (.context (Prompt.chunkSeparator.intercalate contents)), ()) := by
  let corpus := alike { threshold := 0.0 } (.mapping 2 alikeEmbedding) none alikeEmbedding
  have reached : Reachable corpus :=
    reachable_windowed (by decide) rfl alikeEmbedding_maps
      (addsEach_alike { threshold := 0.0 } none alikeEmbedding_maps) ()
  have chunks : corpus.chunks.records = alikeChunks := chunks_alike _ _ _ _
  have size : corpus.chunks.size = 3 := (congrArg Table.size chunks).trans (by decide +kernel)
  obtain ⟨index, indexed, inMemory, threshold, metric, embedder⟩ : ∃ index,
      corpus.chunkIndex = some index ∧ index.options.backend = .memory ∧
      index.options.threshold = 0.0 ∧ index.options.metric = .cosine ∧
      index.embedder = .mapping 2 alikeEmbedding :=
    ⟨_, rfl, rfl, rfl, rfl, rfl⟩
  have maps : index.embedder.Maps alikeEmbedding := embedder ▸ alikeEmbedding_maps
  have keepsAll : index.options.threshold ≤ 0.0 := by
    rw [threshold]
    decide +kernel
  have paid : tokensOf corpus.chunks.records.values ≤ contextQuery.contextBudget := by
    rw [chunks]
    decide +kernel
  have contents : (corpus.chunks.records.values.map Chunk.content).Perm ["a b", "c", "d"] := by
    rw [chunks]
    decide +kernel
  refine ⟨corpus, reached, size, ?_⟩
  intro order question lists
  obtain ⟨recalls, answered⟩ := answer_recalls_chunks reached indexed inMemory maps.dependable
    keepsAll rfl rfl (size.trans_le (by decide)) paid lists question ()
  obtain ⟨⟨response, ⟨⟩⟩, given⟩ := answered (by
    intro embedding embedded
    have dimension := reached.dimension_of_embedder indexed (Nat.ne_of_gt maps.known)
    rw [Index.queryEmbedding_of_maps maps dimension] at embedded
    cases embedded
    exact .inl (reached.numeric indexed inMemory maps
      (metric ▸ alikeEmbedding_numbers) question))
  obtain ⟨taken, same, rfl⟩ := (recalls _ given).all (by
    intro none
    have empty : corpus.chunks.size = 0 := congrArg Table.size none
    rw [size] at empty
    cases empty)
  exact ⟨_, (same.map Chunk.content).trans contents, given⟩

/-! ## Scores that make no order -/

/-- The letters of a document in the order of the identifiers of their chunks.  Their embeddings
are ever worse matches for what is like the last one, but for the last four. -/
def letters : List (String × Embedding) :=
  [("s", [1.0, 1.0]), ("u", [1.0, 2.0]), ("p", [1.0, 3.0]), ("j", [1.0, 4.0]),
    ("d", [1.0, 5.0]), ("n", [1.0, 6.0]), ("f", [1.0, 7.0]), ("c", [1.0, 8.0]),
    ("b", [1.0, 9.0]), ("e", [1.0, 10.0]), ("r", [1.0, 11.0]), ("m", [1.0, 12.0]),
    ("o", [1.0, 13.0]), ("k", [1.0, 14.0]), ("q", [1.0, 15.0]), ("h", [1.0, 16.0]),
    ("l", [1.0, 17.0]), ("a", [1.0, 30.0]), ("g", [1.0, 20.0]), ("i", [Index.huge, 0.0]),
    ("t", [1.0, 0.0])]

def spelled : String := "s u p j d n f c b e r m o k q h l a g i t"

/-- The embedding of a letter, and of a question whose norm times `huge` is infinite. -/
def letterEmbedding (text : String) : Embedding :=
  if text = "?" then [Index.large, 0.0] else (letters.lookup text).getD [0.0, 1.0]

theorem letterEmbedding_mem (text : String) :
    letterEmbedding text ∈ [Index.large, 0.0] :: [0.0, 1.0] :: letters.map Prod.snd := by
  unfold letterEmbedding
  split
  · exact List.mem_cons_self
  · cases found : letters.lookup text with
    | none => exact List.mem_cons_of_mem _ List.mem_cons_self
    | some embedding =>
        obtain ⟨before, behind, same, -⟩ := List.lookup_eq_some_iff.mp found
        have listed : (text, embedding) ∈ letters := by
          rw [same]
          exact List.mem_append_right _ List.mem_cons_self
        exact List.mem_cons_of_mem _ (List.mem_cons_of_mem _ (List.mem_map_of_mem listed))

theorem letterEmbedding_maps : (Embedder.mapping 2 letterEmbedding).Maps letterEmbedding := by
  have lengths : ∀ embedding ∈ [Index.large, 0.0] :: [0.0, 1.0] :: letters.map Prod.snd,
      embedding.length = 2 := by
    decide
  exact Embedder.mapping_maps (by decide) fun text => lengths _ (letterEmbedding_mem text)

theorem letterEmbedding_of_mem :
    ∀ entry ∈ letters, letterEmbedding entry.1 = entry.2 := by
  decide +kernel

def letterChunks : List Chunk :=
  letters.mapIdx fun place entry => ⟨1, entry.1, ContentId.forDocument spelled, place⟩

theorem content_letterChunks : letterChunks.map Chunk.content = letters.map Prod.fst := rfl

theorem ofDocument_spelled :
    Chunk.ofDocument .simple 1 0 (Document.ofText spelled) = .ok letterChunks := by
  decide +kernel

theorem forChunk_lt_forChunk {first second : String}
    (before : (Sha256.hexadecimal (Sha256.digestText first)).toList <
      (Sha256.hexadecimal (Sha256.digestText second)).toList) :
    (ContentId.forChunk first).text < (ContentId.forChunk second).text := by
  rw [String.lt_iff_toList_lt, ContentId.forChunk, ContentId.forChunk, ContentId.hashed,
    ContentId.hashed, String.toList_append, String.toList_append]
  exact List.append_left_lt before

theorem ascending_letterChunks :
    Ascending (letterChunks.map fun chunk => (chunk.id.text, chunk)) := by
  have digits : (letters.map fun entry =>
      (Sha256.hexadecimal (Sha256.digestText entry.1)).toList).IsChain (· < ·) := by
    simp only [Sha256.hexadecimal, String.toList_ofList]
    decide +kernel
  have ids : (letters.map fun entry => (ContentId.forChunk entry.1).text).Pairwise (· < ·) := by
    rw [List.pairwise_map]
    exact (List.pairwise_map.mp (List.isChain_iff_pairwise.mp digits)).imp forChunk_lt_forChunk
  have contents : (letterChunks.map fun chunk => (ContentId.forChunk chunk.content).text) =
      letters.map fun entry => (ContentId.forChunk entry.1).text := rfl
  rw [← contents, List.pairwise_map] at ids
  exact List.pairwise_map.mpr (ids.imp fun before => compare_lt_iff_lt.mpr before)

def letterTable : Table String Chunk :=
  ⟨letterChunks.map fun chunk => (chunk.id.text, chunk), ascending_letterChunks⟩

theorem tableOf_spelled :
    Chunk.tableOf .simple 1 0 (distinctDocuments [spelled]) = .ok letterTable := by
  refine Chunk.tableOf_ok_iff.mpr ⟨[letterChunks], ?_, Table.ofList_eq ascending_letterChunks⟩
  change [Document.ofText spelled].mapM (Chunk.ofDocument .simple 1 0) = _
  rw [List.mapM_cons, ofDocument_spelled]
  rfl

/-- An index that keeps every match and shows nothing of it. -/
def spelledOptions (backend : Backend) : IndexOptions := { backend, threshold := 0.0 }

def spelledGrowth (backend : Backend) : Growth :=
  (Growth.ofChunks (indexOptions (windowed 1 (spelledOptions backend)) chunkIndexName)
    letterEmbedding [spelled] letterTable).merge .none

theorem addsEach_spelled (backend : Backend) :
    (blank (windowed 1 (spelledOptions backend)) .simple (.mapping 2 letterEmbedding)
      none).AddsEach (fun texts => .ok (texts.map letterEmbedding)) [[spelled]]
        [⟨1, letterTable.size⟩] (spelledGrowth backend) := by
  have spelling : (blank (windowed 1 (spelledOptions backend)) .simple
      (.mapping 2 letterEmbedding) none).Adds _ _ _ _ :=
    adds_blank letterEmbedding_maps tableOf_spelled
  exact .more spelling .none

/-- The chunk index with all letters. -/
def spelledIndex (backend : Backend) : Index Unit :=
  (blankIndex (windowed 1 (spelledOptions backend)) (.mapping 2 letterEmbedding)
    chunkIndexName).adding (spelledGrowth backend).vectors

theorem entries_spelledIndex (backend : Backend) :
    (spelledIndex backend).records.entries =
      letters.map fun entry =>
        ((ContentId.forChunk entry.1).text, ⟨entry.2, Table.empty⟩) := by
  have records : (spelledIndex backend).records = (spelledGrowth backend).vectors :=
    Table.empty_merge _
  have vectors : (spelledGrowth backend).vectors.entries =
      (letterChunks.map Chunk.content).map fun content =>
        ((ContentId.forChunk content).text, ⟨letterEmbedding content, Table.empty⟩) := by
    rw [spelledGrowth, Growth.merge_none, Growth.entries_ofChunks, letterTable, List.map_map,
      List.map_map]
    rfl
  rw [records, vectors, content_letterChunks, List.map_map]
  refine List.map_congr_left fun entry member => ?_
  rw [Function.comp_apply, letterEmbedding_of_mem entry member]

theorem stable?_letters :
    Sorting.stable? Match.precedes (letters.map fun entry =>
      ⟨(ContentId.forChunk entry.1).text, Metric.cosine.score [Index.large, 0.0] entry.2,
        Table.empty⟩) = none := by
  decide +kernel

theorem ends_spelledIndex (backend : Backend) :
    (spelledIndex backend).ends (spelledIndex backend).records.entries "?" () = false := by
  have embedded : ((spelledIndex backend).embedder.embed ["?"] ()).1.bind
      (spelledIndex backend).queryEmbedding = .ok [Index.large, 0.0] := rfl
  have filled : (spelledIndex backend).records.isEmpty = false := by
    rw [Table.isEmpty, entries_spelledIndex]
    rfl
  have asked : ¬ ((spelledIndex backend).dimension = 0 ∨
      (spelledIndex backend).records.isEmpty) := by
    rw [filled]
    rintro (zero | empty)
    · cases zero
    · cases empty
  have keepsAll : (spelledIndex backend).options.threshold ≤ 0.0 := by
    change (0.0 : Float32) ≤ 0.0
    decide +kernel
  rw [Index.ends_eq_isSome embedded asked, Index.candidates_of_threshold keepsAll,
    entries_spelledIndex, List.map_map]
  exact congrArg Option.isSome stable?_letters

theorem answer?_of_spelledIndex {corpus : Corpus Unit} (backend : Backend)
    (indexed : corpus.chunkIndex = some (spelledIndex backend)) :
    corpus.answer? "?" contextQuery () = none := by
  have ends : corpus.ends corpus.visits "?" contextQuery () = false := by
    rw [Corpus.ends, visits, indexed]
    exact ends_spelledIndex backend
  rw [answer?, ends]
  rfl

/-- Not every query that matches all chunks and pays for them is answered. -/
theorem chunks_may_not_be_recalled :
    ¬ ∀ (corpus : Corpus Unit) (index : Index Unit) (options : QueryOptions) (question : String),
      Reachable corpus → corpus.chunkIndex = some index → index.options.backend = .memory →
      index.embedder.Dependable → index.options.threshold ≤ 0.0 → options.mode = .naive →
      options.contextOnly = true → corpus.chunks.size ≤ options.matchLimit →
      tokensOf corpus.chunks.records.values ≤ options.contextBudget →
      ∃ response, corpus.answer? question options () = some response ∧
        corpus.Recalls response.1 := by
  intro recalls
  let corpus := (blank (windowed 1 (spelledOptions .memory)) .simple (.mapping 2 letterEmbedding)
    none).absorb (spelledGrowth .memory)
  have reached : Reachable corpus :=
    reachable_windowed (by decide) rfl letterEmbedding_maps (addsEach_spelled .memory) ()
  have chunks : corpus.chunks.records = letterTable := by
    change Table.empty.merge (letterTable.merge Table.empty) = _
    rw [Table.merge_empty, Table.empty_merge]
  have keepsAll : (spelledIndex .memory).options.threshold ≤ 0.0 := by
    change (0.0 : Float32) ≤ 0.0
    decide +kernel
  obtain ⟨response, answered, -⟩ := recalls corpus (spelledIndex .memory) contextQuery "?" reached
    rfl rfl letterEmbedding_maps.dependable keepsAll rfl rfl
    (by rw [Collection.size, chunks]; decide) (by rw [chunks]; decide)
  rw [answer?_of_spelledIndex .memory rfl] at answered
  cases answered

end Corpus

end Retrieval
