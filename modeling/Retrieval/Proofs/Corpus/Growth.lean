import Retrieval.Proofs.Corpus.Coverage
import Retrieval.Proofs.Index.Settled

/-!
# What insertions add

An insertion that succeeds merges three tables into a corpus: the documents of
its texts, their chunks, and the vectors of these (`Growth`).  Over an index that
is steady the tables depend on neither the host nor what was inserted before
(`adds_absorb_iff`), so a run of insertions adds the same tables wherever it is
repeated, and these tables merged are all that is left of it.
-/

namespace Retrieval

/-- The records that one or more insertions add to a corpus. -/
structure Growth where
  documents : Table String Document
  chunks : Table String Chunk
  vectors : Table String StoredVector

namespace Growth

def none : Growth := ⟨Table.empty, Table.empty, Table.empty⟩

/-- The records of two insertions, those of the later one preferred. -/
def merge (growth later : Growth) : Growth :=
  ⟨growth.documents.merge later.documents, growth.chunks.merge later.chunks,
    growth.vectors.merge later.vectors⟩

/-- What some texts add with their chunks, over an embedder that maps texts. -/
def ofChunks (options : IndexOptions) (embeddingOf : String → Embedding) (texts : List String)
    (pieces : Table String Chunk) : Growth where
  documents := Corpus.documentTable texts
  chunks := pieces
  vectors := (Corpus.batchOf pieces).map fun _ record =>
    Index.vectorOf options embeddingOf record

theorem merge_none (growth : Growth) : growth.merge none = growth := by
  rw [merge, none, Table.merge_empty, Table.merge_empty, Table.merge_empty]

theorem entries_ofChunks (options : IndexOptions) (embeddingOf : String → Embedding)
    (texts : List String) (pieces : Table String Chunk) :
    (ofChunks options embeddingOf texts pieces).vectors.entries =
      pieces.entries.map fun entry =>
        (entry.1, Index.vectorOf options embeddingOf (Corpus.recordOf entry.2)) :=
  List.map_map

end Growth

namespace Corpus

variable {σ : Type}

/-- The corpus with the records of some insertions. -/
def absorb (corpus : Corpus σ) (growth : Growth) : Corpus σ :=
  { corpus with
    documents := corpus.documents.upsert growth.documents
    chunks := corpus.chunks.upsert growth.chunks
    chunkIndex := corpus.chunkIndex.map fun index => index.adding growth.vectors }

theorem absorb_none (corpus : Corpus σ) : corpus.absorb .none = corpus := by
  have same : (corpus.chunkIndex.map fun index => index.adding Growth.none.vectors) =
      corpus.chunkIndex := by
    cases corpus.chunkIndex <;> rfl
  rw [absorb, same]
  rfl

theorem absorb_absorb (corpus : Corpus σ) (growth later : Growth) :
    (corpus.absorb growth).absorb later = corpus.absorb (growth.merge later) := by
  unfold absorb Collection.upsert Growth.merge
  dsimp only
  rw [Option.map_map, Table.merge_assoc, Table.merge_assoc]
  simp only [Function.comp_def, Index.adding_adding]

theorem absorb_self (corpus : Corpus σ) (growth : Growth) :
    (corpus.absorb growth).absorb growth = corpus.absorb growth := by
  rw [absorb_absorb, Growth.merge, Table.merge_self, Table.merge_self, Table.merge_self]

/-! ## One insertion -/

/-- What an insertion of some texts adds to a corpus, over an embedder with given answers. -/
structure Adds (corpus : Corpus σ) (answer : List String → Except Failure (List Embedding))
    (texts : List String) (summary : InsertSummary) (growth : Growth) : Prop where
  documents : growth.documents = documentTable texts
  cut : corpus.cut texts = .ok growth.chunks
  stores : ∀ index, corpus.chunkIndex = some index →
    index.Stores answer (batchOf growth.chunks) growth.vectors
  summary : summary = ⟨(distinctDocuments texts).length, growth.chunks.size⟩

/-- The chunk index, if there is one, is steady. -/
def Steady (corpus : Corpus σ) (answer : List String → Except Failure (List Embedding)) : Prop :=
  ∀ index, corpus.chunkIndex = some index → index.Steady answer

/-- The chunk index can write its snapshot, if there is one and it saves by itself. -/
def Saves (corpus : Corpus σ) (files : FileStore) : Prop :=
  ∀ index, corpus.chunkIndex = some index → index.options.autoSave = true → index.Saves files

theorem saves_of_memory {corpus : Corpus σ}
    (inMemory : ∀ index, corpus.chunkIndex = some index → index.options.backend = .memory)
    (files : FileStore) : corpus.Saves files :=
  fun index indexed _ => Index.saves_of_memory (inMemory index indexed) files

theorem saves_of_manual {corpus : Corpus σ}
    (manual : ∀ index, corpus.chunkIndex = some index → index.options.autoSave = false)
    (files : FileStore) : corpus.Saves files := by
  intro index indexed saving
  rw [manual index indexed] at saving
  cases saving

/-- How an insertion that succeeds leaves the files. -/
structure Leaves (corpus : Corpus σ) (before after : FileStore) : Prop where
  saves : corpus.Saves after
  same : (∀ index, corpus.chunkIndex = some index → index.options.autoSave = false) →
    after = before

theorem Leaves.refl {corpus : Corpus σ} {files : FileStore} (saves : corpus.Saves files) :
    corpus.Leaves files files :=
  ⟨saves, fun _ => rfl⟩

theorem Leaves.trans {corpus : Corpus σ} {first second third : FileStore}
    (early : corpus.Leaves first second) (late : corpus.Leaves second third) :
    corpus.Leaves first third :=
  ⟨late.saves, fun manual => (late.same manual).trans (early.same manual)⟩

/-- Over an embedder that maps texts, an insertion adds its chunks with their embeddings. -/
theorem adds_ofChunks {corpus : Corpus σ} {options : IndexOptions}
    {embeddingOf : String → Embedding}
    (maps : ∀ index, corpus.chunkIndex = some index → index.options = options ∧
      index.dimension = index.embedder.dimension ∧ index.embedder.Maps embeddingOf)
    {texts : List String} {pieces : Table String Chunk} (cut : corpus.cut texts = .ok pieces) :
    corpus.Adds (fun texts => .ok (texts.map embeddingOf)) texts
      ⟨(distinctDocuments texts).length, pieces.size⟩
      (.ofChunks options embeddingOf texts pieces) := by
  refine ⟨rfl, cut, ?_, rfl⟩
  intro index indexed
  obtain ⟨rfl, dimension, mapped⟩ := maps index indexed
  exact Index.stores_of_maps mapped dimension _

section Absorb

variable {corpus : Corpus σ} {answer : List String → Except Failure (List Embedding)}
  {texts : List String} {summary : InsertSummary} {growth : Growth} {files : FileStore}

theorem chunkIndex_absorb {grown : Index σ} (growth : Growth)
    (indexed : (corpus.absorb growth).chunkIndex = some grown) :
    ∃ index, corpus.chunkIndex = some index ∧ grown = index.adding growth.vectors := by
  obtain ⟨index, present, rfl⟩ := Option.map_eq_some_iff.mp indexed
  exact ⟨index, present, rfl⟩

theorem Steady.absorb (steady : corpus.Steady answer) (growth : Growth) :
    (corpus.absorb growth).Steady answer := by
  intro grown indexed
  obtain ⟨index, present, rfl⟩ := chunkIndex_absorb growth indexed
  exact ⟨(steady index present).known, (steady index present).settled⟩

theorem saves_absorb_iff (growth : Growth) :
    (corpus.absorb growth).Saves files ↔ corpus.Saves files := by
  constructor
  · intro saves index indexed
    have grown : (corpus.absorb growth).chunkIndex = some (index.adding growth.vectors) :=
      congrArg (Option.map _) indexed
    exact fun saving => saves (index.adding growth.vectors) grown saving
  · intro saves grown indexed
    obtain ⟨index, present, rfl⟩ := chunkIndex_absorb growth indexed
    exact saves index present

theorem Leaves.of_absorb {growth : Growth} {before after : FileStore}
    (leaves : (corpus.absorb growth).Leaves before after) : corpus.Leaves before after where
  saves := (saves_absorb_iff growth).mp leaves.saves
  same := by
    intro manual
    refine leaves.same fun grown indexed => ?_
    obtain ⟨index, present, rfl⟩ := chunkIndex_absorb growth indexed
    exact manual index present

theorem adds_absorb_iff (before : Growth) :
    (corpus.absorb before).Adds answer texts summary growth ↔
      corpus.Adds answer texts summary growth := by
  constructor
  · intro adds
    refine ⟨adds.documents, adds.cut, ?_, adds.summary⟩
    intro index indexed
    have grown : (corpus.absorb before).chunkIndex = some (index.adding before.vectors) :=
      congrArg (Option.map _) indexed
    exact (Index.stores_adding_iff before.vectors).mp (adds.stores _ grown)
  · intro adds
    refine ⟨adds.documents, adds.cut, ?_, adds.summary⟩
    intro grown indexed
    obtain ⟨index, present, rfl⟩ := chunkIndex_absorb before indexed
    exact (Index.stores_adding_iff before.vectors).mpr (adds.stores index present)

end Absorb

/-! ## The steps of an insertion -/

/-- The corpus with more vectors in its chunk index, if it has one. -/
def withVectors (corpus : Corpus σ) (vectors : Table String StoredVector) : Corpus σ :=
  { corpus with chunkIndex := corpus.chunkIndex.map fun index => index.adding vectors }

section Insert

variable {corpus indexed after : Corpus σ}
  {answer : List String → Except Failure (List Embedding)} {texts : List String}
  {pieces : Table String Chunk} {vectors : Table String StoredVector} {summary : InsertSummary}
  {growth : Growth} {host later : Host σ}

theorem withVectors_of_none (unindexed : corpus.chunkIndex = none)
    (vectors : Table String StoredVector) : corpus.withVectors vectors = corpus := by
  rw [withVectors, unindexed, Option.map_none, ← unindexed]

theorem withVectors_of_some {index : Index σ} (present : corpus.chunkIndex = some index)
    (vectors : Table String StoredVector) :
    corpus.withVectors vectors = { corpus with chunkIndex := some (index.adding vectors) } := by
  rw [withVectors, present, Option.map_some]

theorem stores_of_indexChunks (steady : corpus.Steady answer)
    (done : corpus.indexChunks pieces host = (.ok (), indexed, later)) :
    ∃ vectors, (∀ index, corpus.chunkIndex = some index →
        index.Stores answer (batchOf pieces) vectors) ∧
      indexed = corpus.withVectors vectors := by
  cases present : corpus.chunkIndex with
  | none =>
      rw [indexChunks_of_none present] at done
      cases done
      refine ⟨Table.empty, ?_, (withVectors_of_none present _).symm⟩
      intro index absent
      cases absent
  | some index =>
      rw [indexChunks_of_some present] at done
      obtain ⟨taken, rest⟩ := Prod.mk.inj done
      obtain ⟨grown, -⟩ := Prod.mk.inj rest
      obtain ⟨vectors, stores, adding⟩ := Index.stores_of_upsert (steady index present) taken
      refine ⟨vectors, ?_, ?_⟩
      · intro other same
        obtain rfl := Option.some.inj same
        exact stores
      · rw [withVectors_of_some present, ← grown, adding]

theorem indexChunks_of_stores (steady : corpus.Steady answer)
    (stores : ∀ index, corpus.chunkIndex = some index →
      index.Stores answer (batchOf pieces) vectors)
    (saves : corpus.Saves host.files) :
    ∃ later, corpus.indexChunks pieces host = (.ok (), corpus.withVectors vectors, later) ∧
      corpus.Leaves host.files later.files := by
  cases present : corpus.chunkIndex with
  | none =>
      rw [indexChunks_of_none present, withVectors_of_none present]
      exact ⟨host, rfl, .refl saves⟩
  | some index =>
      obtain ⟨later, taken, leaves⟩ := Index.upsert_of_stores (steady index present)
        (stores index present) (saves index present)
      rw [indexChunks_of_some present, withVectors_of_some present, taken]
      refine ⟨later, rfl, ?_, fun manual => leaves.same (manual index present)⟩
      intro other indexed
      obtain rfl := Option.some.inj (present.symm.trans indexed)
      exact leaves.saves

theorem indexChunks_empty (corpus : Corpus σ) (host : Host σ) :
    corpus.indexChunks Table.empty host = (.ok (), corpus, host) := by
  cases present : corpus.chunkIndex with
  | none => exact indexChunks_of_none present Table.empty host
  | some index =>
      rw [indexChunks_of_some present]
      change (_, { corpus with chunkIndex := some index }, host) = _
      rw [← present]
      rfl

/-- An insertion cuts, indexes and stores, also where there is nothing to insert. -/
theorem insert_eq_of_cut (cut : corpus.cut texts = .ok pieces) (host : Host σ) :
    corpus.insert texts host =
      match corpus.indexChunks pieces host with
      | (.error failure, indexed, later) => (.error failure, indexed, later)
      | (.ok _, indexed, later) =>
          (.ok ⟨(distinctDocuments texts).length, pieces.size⟩,
            indexed.store (distinctDocuments texts) pieces, later) := by
  by_cases absent : distinctDocuments texts = []
  · have empty : pieces = Table.empty := by
      unfold Corpus.cut at cut
      rw [absent] at cut
      exact (Except.ok.inj cut).symm
    rw [empty, indexChunks_empty, insert, absent]
    rfl
  · have steps : corpus.insert texts host = _ := insert_eq absent host
    rw [cut] at steps
    exact steps

theorem exists_cut_of_insert (done : corpus.insert texts host = (.ok summary, after, later)) :
    ∃ pieces, corpus.cut texts = .ok pieces := by
  by_cases absent : distinctDocuments texts = []
  · unfold Corpus.cut
    rw [absent]
    exact ⟨_, rfl⟩
  · rw [insert_eq absent] at done
    cases cut : corpus.cut texts with
    | error failure =>
        rw [cut] at done
        cases done
    | ok pieces => exact ⟨pieces, rfl⟩

theorem adds_of_insert (steady : corpus.Steady answer)
    (done : corpus.insert texts host = (.ok summary, after, later)) :
    ∃ growth, corpus.Adds answer texts summary growth ∧ after = corpus.absorb growth := by
  obtain ⟨pieces, cut⟩ := exists_cut_of_insert done
  rw [insert_eq_of_cut cut] at done
  cases outcome : corpus.indexChunks pieces host with
  | mk verdict rest =>
      obtain ⟨indexed, later⟩ := rest
      rw [outcome] at done
      cases verdict with
      | error failure => cases done
      | ok =>
          obtain ⟨vectors, stores, rfl⟩ := stores_of_indexChunks steady outcome
          cases done
          exact ⟨⟨documentTable texts, pieces, vectors⟩, ⟨rfl, cut, stores, rfl⟩, rfl⟩

/-- An insertion with something to add succeeds, if the chunk index can write its file. -/
theorem insert_of_adds (steady : corpus.Steady answer)
    (adds : corpus.Adds answer texts summary growth) (saves : corpus.Saves host.files) :
    ∃ later, corpus.insert texts host = (.ok summary, corpus.absorb growth, later) ∧
      corpus.Leaves host.files later.files := by
  obtain ⟨later, taken, leaves⟩ := indexChunks_of_stores steady adds.stores saves
  refine ⟨later, ?_, leaves⟩
  rw [insert_eq_of_cut adds.cut, taken, adds.summary, absorb, adds.documents]
  rfl

end Insert

/-! ## Insertions in a row -/

/-- Calls of `insert` with one list of texts each, in order, and how each of them ends. -/
def insertEach (corpus : Corpus σ) : List (List String) → Host σ →
    List (Except Failure InsertSummary) × Corpus σ × Host σ
  | [], host => ([], corpus, host)
  | texts :: rest, host =>
      let (outcome, grown, host) := corpus.insert texts host
      let (outcomes, last, host) := grown.insertEach rest host
      (outcome :: outcomes, last, host)

/-- What insertions in a row add to a corpus, over an embedder with given answers. -/
inductive AddsEach (corpus : Corpus σ) (answer : List String → Except Failure (List Embedding)) :
    List (List String) → List InsertSummary → Growth → Prop where
  | none : AddsEach corpus answer [] [] .none
  | more {texts : List String} {rest : List (List String)} {summary : InsertSummary}
      {summaries : List InsertSummary} {growth later : Growth}
      (first : corpus.Adds answer texts summary growth)
      (others : AddsEach corpus answer rest summaries later) :
      AddsEach corpus answer (texts :: rest) (summary :: summaries) (growth.merge later)

section Each

variable {corpus after : Corpus σ} {answer : List String → Except Failure (List Embedding)}
  {batches : List (List String)} {summaries : List InsertSummary} {growth : Growth}
  {host last : Host σ}

theorem insertEach_cons {grown : Corpus σ} {texts : List String} {later : Host σ}
    {outcome : Except Failure InsertSummary}
    (first : corpus.insert texts host = (outcome, grown, later)) (rest : List (List String)) :
    corpus.insertEach (texts :: rest) host =
      (outcome :: (grown.insertEach rest later).1, (grown.insertEach rest later).2) := by
  rw [insertEach, first]

theorem Reachable.insertEach (reached : Reachable corpus) (batches : List (List String))
    (host : Host σ) : Reachable (corpus.insertEach batches host).2.1 := by
  induction batches generalizing corpus host with
  | nil => exact reached
  | cons texts rest ih => exact ih (reached.perform (.insert texts) host) _

theorem addsEach_absorb_iff (before : Growth) :
    (corpus.absorb before).AddsEach answer batches summaries growth ↔
      corpus.AddsEach answer batches summaries growth := by
  constructor
  · intro adds
    induction adds with
    | none => exact .none
    | more first _ ih => exact .more ((adds_absorb_iff before).mp first) ih
  · intro adds
    induction adds with
    | none => exact .none
    | more first _ ih => exact .more ((adds_absorb_iff before).mpr first) ih

theorem addsEach_of_insertEach (steady : corpus.Steady answer)
    (done : corpus.insertEach batches host = (summaries.map .ok, after, last)) :
    ∃ growth, corpus.AddsEach answer batches summaries growth ∧ after = corpus.absorb growth := by
  induction batches generalizing corpus summaries host with
  | nil =>
      obtain ⟨outcomes, rest⟩ := Prod.mk.inj done
      obtain ⟨rfl, -⟩ := Prod.mk.inj rest
      obtain rfl := List.map_eq_nil_iff.mp outcomes.symm
      exact ⟨.none, .none, corpus.absorb_none.symm⟩
  | cons texts rest ih =>
      cases first : corpus.insert texts host with
      | mk outcome state =>
          obtain ⟨grown, later⟩ := state
          rw [insertEach_cons first] at done
          obtain ⟨outcomes, ending⟩ := Prod.mk.inj done
          obtain ⟨summary, others, rfl, rfl, remaining⟩ := List.map_eq_cons_iff.mp outcomes.symm
          obtain ⟨growth, adds, rfl⟩ := adds_of_insert steady first
          obtain ⟨more, addsMore, rfl⟩ := ih (steady.absorb growth) (Prod.ext remaining.symm ending)
          refine ⟨growth.merge more, .more adds ((addsEach_absorb_iff growth).mp addsMore), ?_⟩
          exact absorb_absorb corpus growth more

/-- Insertions with something to add all succeed, if the chunk index can write its file. -/
theorem insertEach_of_addsEach (steady : corpus.Steady answer)
    (adds : corpus.AddsEach answer batches summaries growth) (saves : corpus.Saves host.files) :
    ∃ last, corpus.insertEach batches host = (summaries.map .ok, corpus.absorb growth, last) ∧
      corpus.Leaves host.files last.files := by
  induction batches generalizing corpus summaries growth host with
  | nil =>
      cases adds
      exact ⟨host, by rw [absorb_none]; rfl, .refl saves⟩
  | cons texts rest ih =>
      cases adds with
      | @more _ _ summary summaries growth more first others =>
          obtain ⟨later, inserted, leaves⟩ := insert_of_adds steady first saves
          obtain ⟨last, run, rest⟩ := ih (steady.absorb growth)
            ((addsEach_absorb_iff growth).mpr others) ((saves_absorb_iff growth).mpr leaves.saves)
          refine ⟨last, ?_, leaves.trans rest.of_absorb⟩
          rw [insertEach_cons inserted, run, absorb_absorb]
          rfl

theorem Reachable.absorb (reached : Reachable corpus) (steady : corpus.Steady answer)
    (adds : corpus.AddsEach answer batches summaries growth) {files : FileStore}
    (saves : corpus.Saves files) (outside : σ) : Reachable (corpus.absorb growth) := by
  have inserted := reached.insertEach batches ⟨files, outside⟩
  obtain ⟨last, run, -⟩ : ∃ last, corpus.insertEach batches ⟨files, outside⟩ =
      (summaries.map .ok, corpus.absorb growth, last) ∧ _ :=
    insertEach_of_addsEach steady adds saves
  rwa [run] at inserted

end Each

end Corpus

end Retrieval
