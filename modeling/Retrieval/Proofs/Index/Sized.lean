import Retrieval.Proofs.Index.Dimension
import Retrieval.Proofs.Index.Ranking

/-!
# Embeddings of an index that knows its dimension

An index over an embedder that tells a dimension has it from the start, and takes
no batch with an embedding of another one, whatever the embedder answers.  So a
query compares its own embedding with embeddings of the same length only, and
it is refused for its dimension only if the embedder answered with another.
-/

namespace Retrieval

/-- An embedder that tells two places, answers one text with a single place, and all else with
nothing. -/
def Embedder.fickle : Embedder Unit where
  model := "fickle"
  dimension := 2
  tokenLimit := Embedder.defaultTokenLimit
  embed := fun texts outside => (.ok (if texts = ["x"] then [[1.0]] else []), outside)

namespace Index

variable {σ : Type}

theorem Leads.conforms {first index : Index σ} (run : first.Leads index)
    (known : first.dimension ≠ 0) (conforms : first.Conforms) : index.Conforms := by
  induction run with
  | start => exact conforms
  | @perform index before operation host ih =>
      rcases index.perform_cases host operation with same | ⟨batch, reply, -, accepted⟩
      · rw [same]
        exact ih
      · rw [← before.dimension_eq known] at known
        exact ih.accept known accepted

/-! ## Queries -/

section Query

variable {index : Index σ} {text : String} {limit : Nat} {outside : σ}

/-- Only a first embedding of another length is refused; none at all stands for zeros. -/
theorem queryEmbedding_error_iff {reply : List Embedding} {failure : Failure} :
    index.queryEmbedding reply = .error failure ↔
      ∃ first rest, reply = first :: rest ∧ first.length ≠ index.dimension ∧
        failure = .dimensionMismatch index.dimension first.length := by
  unfold queryEmbedding
  cases reply with
  | nil =>
      have zeros : (Embedding.zeros index.dimension).length = index.dimension :=
        List.length_replicate
      simp [zeros]
  | cons first rest =>
      by_cases fits : first.length = index.dimension
      · simp [fits]
      · rw [List.headD_cons, if_neg fits]
        constructor
        · intro refused
          cases refused
          exact ⟨first, rest, rfl, fits, rfl⟩
        · rintro ⟨_, _, same, -, rfl⟩
          cases same
          rfl

theorem length_of_queryEmbedding {reply : List Embedding} {embedding : Embedding}
    (taken : index.queryEmbedding reply = .ok embedding) :
    embedding.length = index.dimension := by
  unfold queryEmbedding at taken
  dsimp only at taken
  split at taken
  · next fits =>
    cases taken
    exact fits
  · cases taken

/-- A query of an index with something to find fails with the embedder, or because the first
embedding of its answer has another length than the index. -/
theorem query_error_iff (asked : ¬ (index.dimension = 0 ∨ index.records.isEmpty))
    {failure : Failure} :
    (index.query text limit outside).1 = .error failure ↔
      (index.embedder.embed [text] outside).1 = .error failure ∨
      ∃ first rest, (index.embedder.embed [text] outside).1 = .ok (first :: rest) ∧
        first.length ≠ index.dimension ∧
        failure = .dimensionMismatch index.dimension first.length := by
  rw [query_eq, queryThrough_fst, if_neg asked]
  cases answered : (index.embedder.embed [text] outside).1 with
  | error other => simp [Except.bind, Except.map]
  | ok reply =>
      have refused : index.queryEmbedding reply = .error failure ↔ _ := queryEmbedding_error_iff
      simp only [Except.bind, reduceCtorEq, false_or, Except.ok.injEq]
      rw [← refused]
      cases index.queryEmbedding reply <;> simp [Except.map]

/-- A query that is answered ranks all records by one embedding of the index's length. -/
theorem query_ok (asked : ¬ (index.dimension = 0 ∨ index.records.isEmpty)) {found : List Match}
    (answered : (index.query text limit outside).1 = .ok found) :
    ∃ embedding : Embedding, embedding.length = index.dimension ∧
      found = ranked index.options embedding limit index.records.entries := by
  rw [query_eq, queryThrough_fst, if_neg asked] at answered
  cases reply : (index.embedder.embed [text] outside).1 with
  | error failure =>
      rw [reply] at answered
      cases answered
  | ok vectors =>
      rw [reply] at answered
      cases taken : index.queryEmbedding vectors with
      | error failure =>
          rw [Except.bind, taken] at answered
          cases answered
      | ok embedding =>
          rw [Except.bind, taken] at answered
          cases answered
          exact ⟨embedding, length_of_queryEmbedding taken, rfl⟩

end Query

/-! ## Runs -/

/-- Over an embedder that tells a dimension, and without a snapshot, an index has this dimension
after every run, and so have all its embeddings.  A query of its records fails with the embedder,
or because the first embedding it is given has another length; otherwise it ranks the records by
an embedding as long as each of theirs. -/
theorem embeddings_have_known_dimension {name : String} {options : IndexOptions}
    {embedder : Embedder σ} {files : FileStore} {first index : Index σ}
    (known : 0 < embedder.dimension)
    (absent : options.backend = .memory ∨ files.contains options.file = false)
    (started : Index.start name options embedder files = .ok first)
    (run : first.Leads index) :
    index.dimension = embedder.dimension ∧
    (∀ id stored, index.records.get? id = some stored →
      stored.embedding.length = embedder.dimension) ∧
    (index.records ≠ Table.empty → ∀ text limit outside,
      (∀ failure, (index.query text limit outside).1 = .error failure ↔
        (embedder.embed [text] outside).1 = .error failure ∨
        ∃ vector others, (embedder.embed [text] outside).1 = .ok (vector :: others) ∧
          vector.length ≠ embedder.dimension ∧
          failure = .dimensionMismatch embedder.dimension vector.length) ∧
      ∀ found, (index.query text limit outside).1 = .ok found →
        ∃ embedding : Embedding,
          found = ranked options embedding limit index.records.entries ∧
          embedding.length = embedder.dimension ∧
          ∀ entry ∈ index.records.entries, entry.2.embedding.length = embedding.length) := by
  obtain rfl := start_of_absent absent started
  have nonzero : (fresh name options embedder).dimension ≠ 0 := Nat.ne_of_gt known
  have dimension : index.dimension = embedder.dimension := run.dimension_eq nonzero
  have sameOptions : index.options = options := run.options_eq
  have sameEmbedder : index.embedder = embedder := run.embedder_eq
  have conforms : ∀ id stored, index.records.get? id = some stored →
      stored.embedding.length = embedder.dimension := by
    rw [← dimension]
    exact run.conforms nonzero (conforms_fresh name options embedder)
  refine ⟨dimension, conforms, ?_⟩
  intro filled text limit outside
  have asked : ¬ (index.dimension = 0 ∨ index.records.isEmpty) := by
    rintro (zero | none)
    · exact Nat.ne_of_gt known (dimension.symm.trans zero)
    · exact filled (index.records.isEmpty_iff.mp none)
  constructor
  · intro failure
    rw [query_error_iff asked, sameEmbedder, dimension]
  · intro found answered
    obtain ⟨embedding, length, ranking⟩ := query_ok asked answered
    rw [sameOptions] at ranking
    rw [dimension] at length
    refine ⟨embedding, ranking, length, ?_⟩
    intro entry inside
    rw [length]
    exact conforms entry.1 entry.2 (Table.get?_eq_some_iff.mpr inside)

/-- A record whose text has no embedding is stored with zeros; a query whose embedding is too
short is refused, and one without an embedding is not. -/
theorem embeddings_have_known_dimension_of_fickle :
    ∃ index : Index Unit, (fresh "chunks" {} .fickle).Leads index ∧
      index.records.get? "a" = some ⟨[0.0, 0.0], Table.empty⟩ ∧ index.dimension = 2 ∧
      (index.query "x" 1 ()).1 = .error (.dimensionMismatch 2 1) ∧
      ∀ failure, (index.query "y" 1 ()).1 ≠ .error failure := by
  let batch : Table String Properties := Table.ofList [("a", Table.ofList [("content", "y")])]
  let index := ((fresh "chunks" {} .fickle).upsert batch ⟨FileStore.empty, ()⟩).2.1
  have run : (fresh "chunks" {} .fickle).Leads index :=
    .perform .start (.upsert batch) ⟨FileStore.empty, ()⟩
  have stored : index.records.get? "a" = some ⟨[0.0, 0.0], Table.empty⟩ := rfl
  have filled : index.records ≠ Table.empty := by
    intro none
    rw [none] at stored
    cases stored
  have started : Index.start "chunks" {} .fickle FileStore.empty =
      .ok (fresh "chunks" {} .fickle) := rfl
  have known : 0 < Embedder.fickle.dimension := by decide
  obtain ⟨dimension, -, queries⟩ :=
    embeddings_have_known_dimension known (.inl rfl) started run
  refine ⟨index, run, stored, dimension, ?_, ?_⟩
  · exact ((queries filled "x" 1 ()).1 _).mpr (.inr ⟨[1.0], [], rfl, by decide, rfl⟩)
  · intro failure refused
    rcases ((queries filled "y" 1 ()).1 failure).mp refused with own | ⟨vector, others, given, -⟩
    · cases own
    · cases given

end Index

end Retrieval
