import Retrieval.Proofs.Index.Run

/-!
# Embeddings of an index that does not know its dimension

An index over an embedder that does not tell its dimension takes it from the
first embedding that has numbers in it.  Embeddings without numbers are taken
before that and stay: after any run an embedding has the dimension of the index
or no numbers.  `Strands` tells the upserts that leave one of the latter behind.
-/

namespace Retrieval

/-- An embedder whose embeddings are as long as the texts, and that tells no dimension. -/
def Embedder.bytewise : Embedder Unit where
  model := "bytes"
  dimension := 0
  tokenLimit := Embedder.defaultTokenLimit
  embed := fun texts outside =>
    (.ok (texts.map fun text => List.replicate text.utf8ByteSize 1.0), outside)

namespace Index

variable {σ : Type}

/-- Every stored embedding has the dimension of the index. -/
def Conforms (index : Index σ) : Prop :=
  ∀ id stored, index.records.get? id = some stored → stored.embedding.length = index.dimension

/-- Every stored embedding has the dimension of the index, or no numbers. -/
def Fitting (index : Index σ) : Prop :=
  ∀ id stored, index.records.get? id = some stored →
    stored.embedding = [] ∨ stored.embedding.length = index.dimension

/-- The upsert gives the index its dimension while it stores an embedding without numbers, or
while a record stays that was stored before. -/
structure Strands (index : Index σ) (batch : Table String Properties) (host : Host σ) :
    Prop where
  unsized : index.dimension = 0
  sized : (index.upsert batch host).2.1.dimension ≠ 0
  left : (∃ reply, index.replyTo batch host = .ok reply ∧
      [] ∈ index.aligned batch.size reply) ∨
    ∃ id, index.records.contains id = true ∧ batch.contains id = false

theorem Conforms.fitting {index : Index σ} (conforms : index.Conforms) : index.Fitting :=
  fun id stored found => .inr (conforms id stored found)

theorem Fitting.conforms_iff {index : Index σ} (fitting : index.Fitting) :
    index.Conforms ↔ index.dimension = 0 ∨
      ∀ id stored, index.records.get? id = some stored → stored.embedding ≠ [] := by
  constructor
  · intro conforms
    by_cases unsized : index.dimension = 0
    · exact .inl unsized
    · right
      intro id stored found none
      have length := conforms id stored found
      rw [none] at length
      exact unsized length.symm
  · rintro (unsized | filled) id stored found
    · rcases fitting id stored found with none | same
      · rw [none, unsized]
        rfl
      · exact same
    · exact (fitting id stored found).resolve_left (filled id stored found)

/-! ## One batch -/

section Batch

variable {index grown : Index σ} {batch : Table String Properties} {reply : List Embedding}

/-- A record after a batch was in the batch, or it was there before and is not in the batch. -/
theorem get?_of_accept (accepted : index.accept batch reply = .ok grown) {id : String}
    {stored : StoredVector} :
    grown.records.get? id = some stored ↔
      (index.storedTable batch reply).get? id = some stored ∨
        batch.contains id = false ∧ index.records.get? id = some stored := by
  rw [records_of_accept accepted, Table.get?_merge, ← contains_storedTable index batch reply,
    ← Table.get?_eq_none_iff]
  cases (index.storedTable batch reply).get? id <;> simp

/-- Embeddings without numbers stay as they are, and all others keep the dimension. -/
theorem Fitting.accept (fitting : index.Fitting)
    (accepted : index.accept batch reply = .ok grown) : grown.Fitting := by
  intro id stored found
  rcases (get?_of_accept accepted).mp found with new | ⟨-, old⟩
  · exact length_of_storedTable accepted new
  · by_cases unsized : index.dimension = 0
    · left
      rcases fitting id stored old with none | same
      · exact none
      · exact List.length_eq_zero_iff.mp (same.trans unsized)
    · rw [dimension_of_accept unsized accepted]
      exact fitting id stored old

theorem Conforms.accept (conforms : index.Conforms) (known : index.dimension ≠ 0)
    (accepted : index.accept batch reply = .ok grown) : grown.Conforms := by
  intro id stored found
  rw [dimension_of_accept known accepted]
  rcases (get?_of_accept accepted).mp found with new | ⟨-, old⟩
  · obtain ⟨dimension, measured, rfl⟩ := accept_ok accepted
    obtain ⟨-, -, -, member⟩ := mem_storedBatch (Table.get?_eq_some_iff.mp new)
    exact (sized_of_known known measured).2 _ member
  · exact conforms id stored old

/-- Without a dimension all records before a batch are without numbers, so all records after it
have numbers if the batch has them throughout and replaces every record. -/
theorem filled_iff_of_unsized (conforms : index.Conforms) (unsized : index.dimension = 0)
    (accepted : index.accept batch reply = .ok grown) :
    (∀ id stored, grown.records.get? id = some stored → stored.embedding ≠ []) ↔
      ¬ ([] ∈ index.aligned batch.size reply ∨
        ∃ id, index.records.contains id = true ∧ batch.contains id = false) := by
  constructor
  · rintro filled (empty | ⟨id, present, absent⟩)
    · obtain ⟨id, stored, found, none⟩ := exists_stored_of_mem_aligned empty
      exact filled id stored ((get?_of_accept accepted).mpr (.inl found)) none
    · obtain ⟨stored, found⟩ := Table.contains_iff.mp present
      have none : stored.embedding = [] :=
        List.length_eq_zero_iff.mp ((conforms id stored found).trans unsized)
      exact filled id stored ((get?_of_accept accepted).mpr (.inr ⟨absent, found⟩)) none
  · intro replaced id stored found none
    rcases (get?_of_accept accepted).mp found with new | ⟨absent, old⟩
    · obtain ⟨-, -, -, member⟩ := mem_storedBatch (Table.get?_eq_some_iff.mp new)
      rw [none] at member
      exact replaced (.inl member)
    · exact replaced (.inr ⟨id, Table.contains_iff.mpr ⟨stored, old⟩, absent⟩)

theorem conforms_iff_of_accept (conforms : index.Conforms)
    (accepted : index.accept batch reply = .ok grown) :
    grown.Conforms ↔ ¬ (index.dimension = 0 ∧ grown.dimension ≠ 0 ∧
      ([] ∈ index.aligned batch.size reply ∨
        ∃ id, index.records.contains id = true ∧ batch.contains id = false)) := by
  by_cases unsized : index.dimension = 0
  · rw [(conforms.fitting.accept accepted).conforms_iff,
      filled_iff_of_unsized conforms unsized accepted]
    constructor
    · rintro (zero | replaced) ⟨-, sized, left⟩
      · exact sized zero
      · exact replaced left
    · intro unstranded
      by_cases zero : grown.dimension = 0
      · exact .inl zero
      · exact .inr fun left => unstranded ⟨unsized, zero, left⟩
  · exact iff_of_true (conforms.accept unsized accepted) fun stranded => unsized stranded.1

end Batch

/-- The upserts after which a conforming index does not conform are those that strand an
embedding without numbers. -/
theorem conforms_upsert_iff {index : Index σ} (conforms : index.Conforms)
    (batch : Table String Properties) (host : Host σ) :
    (index.upsert batch host).2.1.Conforms ↔ ¬ index.Strands batch host := by
  rcases index.upsert_cases batch host with same | ⟨reply, replied, accepted⟩
  · refine iff_of_true (same.symm ▸ conforms) ?_
    intro stranded
    have sized := stranded.sized
    rw [same] at sized
    exact sized stranded.unsized
  · refine (conforms_iff_of_accept conforms accepted).trans (not_congr ?_)
    constructor
    · rintro ⟨unsized, sized, left⟩
      exact ⟨unsized, sized, left.imp_left fun empty => ⟨reply, replied, empty⟩⟩
    · rintro ⟨unsized, sized, left⟩
      refine ⟨unsized, sized, left.imp_left ?_⟩
      rintro ⟨other, answered, empty⟩
      cases replied.symm.trans answered
      exact empty

/-! ## Runs -/

theorem Leads.fitting {first index : Index σ} (run : first.Leads index)
    (fitting : first.Fitting) : index.Fitting := by
  induction run with
  | start => exact fitting
  | @perform index _ operation host ih =>
      rcases index.perform_cases host operation with same | ⟨batch, reply, -, accepted⟩
      · rw [same]
        exact ih
      · exact ih.accept accepted

theorem conforms_fresh (name : String) (options : IndexOptions) (embedder : Embedder σ) :
    (fresh name options embedder).Conforms := by
  intro id stored found
  rw [fresh, Table.get?_empty] at found
  cases found

/-- Started without a snapshot, an index stores embeddings of its dimension and embeddings
without numbers after every run.  A dimension that is not zero stays.  As long as all embeddings
have the dimension, they keep it exactly through the upserts that strand none. -/
theorem embeddings_of_absent_snapshot {name : String} {options : IndexOptions}
    {embedder : Embedder σ} {files : FileStore} {first index : Index σ}
    (absent : options.backend = .memory ∨ files.contains options.file = false)
    (started : Index.start name options embedder files = .ok first)
    (run : first.Leads index) :
    index.Fitting ∧
    (∀ after, index.Leads after → index.dimension ≠ 0 → after.dimension = index.dimension) ∧
    (index.Conforms → ∀ batch host,
      ((index.upsert batch host).2.1.Conforms ↔ ¬ index.Strands batch host)) := by
  obtain rfl := start_of_absent absent started
  refine ⟨run.fitting (conforms_fresh name options embedder).fitting, ?_, conforms_upsert_iff⟩
  intro after later known
  exact later.dimension_eq known

/-! ## An empty text beside another -/

/-- Two records, the first of which has an empty content. -/
def emptyBesideLetter : Table String Properties :=
  Table.ofList [("a", Table.ofList [("content", "")]), ("b", Table.ofList [("content", "x")])]

/-- A host without files. -/
def bareHost : Host Unit := ⟨FileStore.empty, ()⟩

/-- An index in memory over the embedder whose embeddings are as long as the texts. -/
def bytewiseIndex : Index Unit := fresh "chunks" {} .bytewise

theorem upsert_emptyBesideLetter :
    (bytewiseIndex.upsert emptyBesideLetter bareHost).2.1 =
      { bytewiseIndex with
        dimension := 1
        records := Table.ofList [("a", ⟨[], Table.empty⟩), ("b", ⟨[1.0], Table.empty⟩)] } :=
  rfl

theorem not_conforms_emptyBesideLetter :
    ¬ (bytewiseIndex.upsert emptyBesideLetter bareHost).2.1.Conforms := by
  intro conforms
  rw [upsert_emptyBesideLetter] at conforms
  have length : ([] : Embedding).length = 1 := conforms "a" ⟨[], Table.empty⟩ rfl
  cases length

/-- The empty text is embedded without numbers, and the text behind it sets the dimension. -/
theorem embeddings_of_absent_snapshot_of_empty_text :
    Index.start "chunks" {} .bytewise FileStore.empty = .ok bytewiseIndex ∧
    ∃ index, bytewiseIndex.Leads index ∧ index.Fitting ∧ index.dimension = 1 ∧
      ¬ index.Conforms ∧ bytewiseIndex.Strands emptyBesideLetter bareHost := by
  have started : Index.start "chunks" {} .bytewise FileStore.empty = .ok bytewiseIndex := rfl
  have run : bytewiseIndex.Leads (bytewiseIndex.upsert emptyBesideLetter bareHost).2.1 :=
    .perform .start (.upsert emptyBesideLetter) bareHost
  obtain ⟨fitting, -, -⟩ := embeddings_of_absent_snapshot (.inl rfl) started run
  obtain ⟨-, -, strands⟩ := embeddings_of_absent_snapshot (.inl rfl) started .start
  have stranded := strands (conforms_fresh "chunks" {} .bytewise) emptyBesideLetter bareHost
  refine ⟨started, _, run, fitting, rfl, not_conforms_emptyBesideLetter, ?_⟩
  exact Classical.byContradiction fun kept =>
    not_conforms_emptyBesideLetter (stranded.mpr kept)

/-- Not every embedding of an index that had no dimension has its dimension. -/
theorem embeddings_may_miss_dimension :
    ¬ ∀ (name : String) (options : IndexOptions) (embedder : Embedder Unit) (files : FileStore)
        (first index : Index Unit), embedder.dimension = 0 →
      (options.backend = .memory ∨ files.contains options.file = false) →
      Index.start name options embedder files = .ok first → first.Leads index →
      index.Conforms ∧
        ∀ after, index.Leads after → index.dimension ≠ 0 → after.dimension = index.dimension := by
  intro conforming
  have run : bytewiseIndex.Leads (bytewiseIndex.upsert emptyBesideLetter bareHost).2.1 :=
    .perform .start (.upsert emptyBesideLetter) bareHost
  obtain ⟨conforms, -⟩ := conforming "chunks" {} .bytewise FileStore.empty bytewiseIndex _ rfl
    (.inl rfl) rfl run
  exact not_conforms_emptyBesideLetter conforms

end Index

end Retrieval
