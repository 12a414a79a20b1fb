import Retrieval.Inquiry
import Retrieval.Proofs.Outcome
import Retrieval.Settings.Read

/-!
# Settings that pass the checks

The checks take the settings in which every name is known and every number is in
reach (`check_ok_iff`), and of those the options of a corpus and of its queries can
be made.
-/

namespace Retrieval

namespace Settings

/-- What the checks look for, section by section. -/
structure Accepted (settings : Settings) : Prop where
  advances : settings.chunking.overlap < settings.chunking.size
  tokenizer : settings.chunking.tokenizer ∈ ["simple", "tiktoken"]
  metric : ∃ metric, Metric.ofName settings.vectors.metric = .ok metric
  backend : ∃ backend, Backend.ofName settings.vectors.backend = .ok backend
  embedder : settings.embeddings.provider ∈ [disabled, "hash", "openai"]
  dimension : settings.embeddings.provider = "hash" → settings.embeddings.dimension ≠ 0
  generator : settings.generation.provider ∈ [disabled, "openai"]
  matchLimit : 1 ≤ settings.queries.matchLimit
  mode : ∃ mode, QueryMode.ofName settings.queries.mode = .ok mode
  level : ∃ level, LogLevel.ofText settings.logging.level = .ok level

/-! ## Checks -/

theorem refuseIf_ok_iff {isWrong : Prop} [Decidable isWrong] {fault : SettingsFault} {done : Unit} :
    refuseIf isWrong fault = .ok done ↔ ¬ isWrong := by
  unfold refuseIf
  split
  · next wrong => exact iff_of_false nofun (Classical.not_not.mpr wrong)
  · next fine => exact iff_of_true rfl fine

theorem pure_ok_iff {ε : Type} {done : Unit} : (pure () : Except ε Unit) = .ok done ↔ True :=
  iff_of_true rfl trivial

theorem checkChunking_ok_iff {chunking : Chunking} {done : Unit} :
    checkChunking chunking = .ok done ↔
      chunking.overlap < chunking.size ∧ chunking.tokenizer ∈ ["simple", "tiktoken"] := by
  simp only [checkChunking, bind_ok_iff, refuseIf_ok_iff, exists_const, Nat.not_le,
    Classical.not_not]
  constructor
  · rintro ⟨-, advances, known⟩
    exact ⟨advances, known⟩
  · rintro ⟨advances, known⟩
    exact ⟨Nat.ne_zero_of_lt advances, advances, known⟩

theorem checkVectors_ok_iff {vectors : Vectors} {done : Unit} :
    checkVectors vectors = .ok done ↔
      (∃ metric, Metric.ofName vectors.metric = .ok metric) ∧
        ∃ backend, Backend.ofName vectors.backend = .ok backend := by
  simp only [checkVectors, bind_ok_iff, mapError_ok_iff, pure_ok_iff, and_true, exists_and_right]

theorem checkEmbeddings_ok_iff {embeddings : Embeddings} {done : Unit} :
    checkEmbeddings embeddings = .ok done ↔
      embeddings.provider ∈ [disabled, "hash", "openai"] ∧
        (embeddings.provider = "hash" → embeddings.dimension ≠ 0) := by
  simp only [checkEmbeddings, bind_ok_iff, refuseIf_ok_iff, exists_const, Classical.not_not,
    not_and]

theorem checkGeneration_ok_iff {generation : Generation} {done : Unit} :
    checkGeneration generation = .ok done ↔ generation.provider ∈ [disabled, "openai"] := by
  rw [checkGeneration, refuseIf_ok_iff, Classical.not_not]

theorem checkQueries_ok_iff {queries : Queries} {done : Unit} :
    checkQueries queries = .ok done ↔
      1 ≤ queries.matchLimit ∧ ∃ mode, QueryMode.ofName queries.mode = .ok mode := by
  simp only [checkQueries, bind_ok_iff, refuseIf_ok_iff, exists_const, Nat.not_lt,
    mapError_ok_iff, pure_ok_iff, and_true]

/-- Settings pass the checks exactly when every section does. -/
theorem check_ok_iff {settings : Settings} : settings.check = .ok () ↔ settings.Accepted := by
  simp only [check, bind_ok_iff, checkChunking_ok_iff, checkVectors_ok_iff, checkEmbeddings_ok_iff,
    checkGeneration_ok_iff, checkQueries_ok_iff, mapError_ok_iff, pure_ok_iff, and_true,
    exists_const]
  constructor
  · rintro ⟨⟨advances, tokenizer⟩, ⟨metric, backend⟩, ⟨embedder, dimension⟩, generator,
      ⟨matchLimit, mode⟩, level⟩
    exact ⟨advances, tokenizer, metric, backend, embedder, dimension, generator, matchLimit, mode,
      level⟩
  · intro accepted
    exact ⟨⟨accepted.advances, accepted.tokenizer⟩, ⟨accepted.metric, accepted.backend⟩,
      ⟨accepted.embedder, accepted.dimension⟩, accepted.generator,
      ⟨accepted.matchLimit, accepted.mode⟩, accepted.level⟩

/-! ## What accepted settings give -/

variable {settings : Settings}

theorem corpusOptions_ok {options : CorpusOptions} (made : settings.corpusOptions = .ok options) :
    Metric.ofName settings.vectors.metric = .ok options.index.metric ∧
      Backend.ofName settings.vectors.backend = .ok options.index.backend ∧
      options.workingDirectory = settings.storage.workingDirectory ∧
      options.chunkSize = settings.chunking.size ∧
      options.chunkOverlap = settings.chunking.overlap := by
  obtain ⟨metric, measured, made⟩ := bind_ok_iff.mp made
  obtain ⟨backend, placed, made⟩ := bind_ok_iff.mp made
  cases made
  exact ⟨measured, placed, rfl, rfl, rfl⟩

theorem Accepted.exists_corpusOptions (accepted : settings.Accepted) :
    ∃ options, settings.corpusOptions = .ok options := by
  obtain ⟨metric, measured⟩ := accepted.metric
  obtain ⟨backend, placed⟩ := accepted.backend
  exact ⟨_, bind_ok_iff.mpr ⟨metric, measured, bind_ok_iff.mpr ⟨backend, placed, rfl⟩⟩⟩

theorem queryOptions_ok {options : QueryOptions} (made : settings.queryOptions = .ok options) :
    QueryMode.ofName settings.queries.mode = .ok options.mode ∧
      options.matchLimit = settings.queries.matchLimit := by
  obtain ⟨mode, named, made⟩ := bind_ok_iff.mp made
  cases made
  exact ⟨named, rfl⟩

theorem Accepted.exists_queryOptions (accepted : settings.Accepted) :
    ∃ options, settings.queryOptions = .ok options := by
  obtain ⟨mode, named⟩ := accepted.mode
  exact ⟨_, bind_ok_iff.mpr ⟨mode, named, rfl⟩⟩

end Settings

end Retrieval
