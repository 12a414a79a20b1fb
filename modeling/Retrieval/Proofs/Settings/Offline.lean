import Retrieval.Proofs.Corpus.Blame
import Retrieval.Proofs.Index.Snapshot
import Retrieval.Proofs.Settings.Check

/-!
# Settings that work offline

Accepted settings that ask no remote service always give the options of a corpus and
of its queries, a tokenizer and an embedder.  What is left to fail is not for the
settings to answer (`accepted_settings_are_sound`).
-/

namespace Retrieval

open Http (Network)

/-! ## Overrides -/

namespace Overrides

variable {overrides : Overrides} {options : QueryOptions}

theorem modeOver_error_iff {mode : QueryMode} {complaint : Complaint} :
    overrides.modeOver mode = .error complaint ↔
      ∃ name cause, overrides.mode = some name ∧ QueryMode.ofName name = .error cause ∧
        .failure cause = complaint := by
  unfold modeOver
  cases overrides.mode with
  | none =>
      refine iff_of_false nofun ?_
      rintro ⟨name, cause, absent, -⟩
      cases absent
  | some name => simp only [mapError_error_iff, Option.some.injEq, exists_and_left, exists_eq_left']

theorem matchLimitOver_error_iff {limit : Nat} {complaint : Complaint} :
    overrides.matchLimitOver limit = .error complaint ↔
      overrides.matchLimit = some 0 ∧ complaint = .zeroMatchLimit := by
  unfold matchLimitOver
  cases overrides.matchLimit with
  | none => exact iff_of_false nofun nofun
  | some wanted =>
      cases wanted with
      | zero =>
          constructor
          · rintro ⟨⟩
            exact ⟨rfl, rfl⟩
          · rintro ⟨-, rfl⟩
            rfl
      | succ wanted => exact iff_of_false nofun nofun

theorem pos_of_matchLimitOver {limit asked : Nat} (positive : 1 ≤ limit)
    (done : overrides.matchLimitOver limit = .ok asked) : 1 ≤ asked := by
  unfold matchLimitOver at done
  generalize overrides.matchLimit = given at done
  cases given with
  | none =>
      cases done
      exact positive
  | some wanted =>
      cases wanted with
      | zero => cases done
      | succ wanted =>
          cases done
          exact Nat.succ_pos wanted

/-- Overrides fail for a mode that is not known, or else for the wish for no matches. -/
theorem apply_error_iff {complaint : Complaint} :
    overrides.apply options = .error complaint ↔
      (∃ name cause, overrides.mode = some name ∧ QueryMode.ofName name = .error cause ∧
        .failure cause = complaint) ∨
      (∃ mode, overrides.modeOver options.mode = .ok mode) ∧ overrides.matchLimit = some 0 ∧
        complaint = .zeroMatchLimit := by
  unfold apply
  rw [bind_error_iff, modeOver_error_iff]
  refine or_congr Iff.rfl ?_
  constructor
  · rintro ⟨mode, named, failed⟩
    rcases bind_error_iff.mp failed with limited | ⟨limit, asked, failed⟩
    · exact ⟨⟨mode, named⟩, matchLimitOver_error_iff.mp limited⟩
    · cases failed
  · rintro ⟨⟨mode, named⟩, limited⟩
    exact ⟨mode, named, bind_error_iff.mpr (.inl (matchLimitOver_error_iff.mpr limited))⟩

theorem pos_of_apply {asked : QueryOptions} (positive : 1 ≤ options.matchLimit)
    (done : overrides.apply options = .ok asked) : 1 ≤ asked.matchLimit := by
  obtain ⟨mode, named, done⟩ := bind_ok_iff.mp done
  obtain ⟨limit, limited, done⟩ := bind_ok_iff.mp done
  cases done
  exact pos_of_matchLimitOver positive limited

end Overrides

namespace Settings

/-- No remote service is asked: the hash embedder is wanted or none, and no generator. -/
structure Offline (settings : Settings) : Prop where
  embedder : settings.embeddings.provider = hashProvider ∨ settings.embeddings.provider = disabled
  generator : settings.generation.provider = disabled

/-- The embedder of settings that ask no remote service. -/
def localEmbedder (settings : Settings) : Option (Embedder Network) :=
  if settings.embeddings.provider = hashProvider then
    some (.hashed Network settings.embeddings.dimension settings.embeddings.tokenLimit)
  else none

section Offline

variable {settings : Settings} {environment : Environment} {options : CorpusOptions}
  {tokenizer : Tokenizer} {files made : FileStore}

theorem Offline.embedder?_eq (offline : settings.Offline) (environment : Environment) :
    settings.embeddings.embedder? environment = .ok settings.localEmbedder := by
  unfold Embeddings.embedder? localEmbedder
  rcases offline.embedder with hash | none
  · rw [if_pos hash, if_pos hash]
  · rw [none]
    rfl

theorem Offline.generator?_eq (offline : settings.Offline) (environment : Environment) :
    settings.generation.generator? environment = .ok none := by
  unfold Generation.generator?
  rw [offline.generator]
  rfl

theorem Offline.parts_eq (offline : settings.Offline)
    (named : settings.tokenizer environment = .ok tokenizer)
    (given : settings.corpusOptions = .ok options) :
    settings.parts environment = .ok (options, ⟨tokenizer, settings.localEmbedder, none⟩) := by
  unfold parts
  rw [named, offline.embedder?_eq, offline.generator?_eq, given]
  rfl

theorem Offline.startCorpus_eq (offline : settings.Offline)
    (named : settings.tokenizer environment = .ok tokenizer)
    (given : settings.corpusOptions = .ok options) (files : FileStore) :
    settings.startCorpus environment files =
      ((Corpus.start options tokenizer settings.localEmbedder files).1.mapError
          (.workingDirectory options.workingDirectory),
        (Corpus.start options tokenizer settings.localEmbedder files).2) := by
  unfold startCorpus
  rw [offline.parts_eq named given]
  dsimp only
  cases started : Corpus.start options tokenizer settings.localEmbedder files with
  | mk outcome made =>
      cases outcome with
      | error failure => rfl
      | ok corpus =>
          obtain ⟨chunkIndex, entityIndex, -, -, rfl⟩ := Corpus.start_ok started
          rfl

theorem Offline.start_of_startCorpus (offline : settings.Offline)
    (named : settings.tokenizer environment = .ok tokenizer)
    (given : settings.corpusOptions = .ok options) {corpus : Corpus Network}
    (started : settings.startCorpus environment files = (.ok corpus, made)) :
    Corpus.start options tokenizer settings.localEmbedder files = (.ok corpus, made) := by
  rw [offline.startCorpus_eq named given] at started
  obtain ⟨done, rfl⟩ := Prod.mk.inj started
  exact Prod.ext (mapError_ok_iff.mp done) rfl

theorem Offline.unstarted_of_startCorpus (offline : settings.Offline)
    (named : settings.tokenizer environment = .ok tokenizer)
    (given : settings.corpusOptions = .ok options) {complaint : Complaint}
    (failed : settings.startCorpus environment files = (.error complaint, made)) :
    ∃ cause, complaint = .workingDirectory options.workingDirectory cause ∧
      Corpus.Unstarted options settings.localEmbedder files cause made := by
  rw [offline.startCorpus_eq named given] at failed
  obtain ⟨renamed, rfl⟩ := Prod.mk.inj failed
  obtain ⟨cause, fails, rfl⟩ := mapError_error_iff.mp renamed
  have refused : Corpus.start options tokenizer settings.localEmbedder files =
      (.error cause, (Corpus.start options tokenizer settings.localEmbedder files).2) :=
    Prod.ext fails rfl
  exact ⟨cause, rfl, Corpus.unstarted_of_start refused⟩

theorem localEmbedder_eq_some {provider : Embedder Network}
    (given : settings.localEmbedder = some provider) :
    provider =
      .hashed Network settings.embeddings.dimension settings.embeddings.tokenLimit := by
  unfold localEmbedder at given
  split at given
  · exact (Option.some.inj given).symm
  · cases given

theorem index_of_start {corpus : Corpus Network}
    (started : Corpus.start options tokenizer settings.localEmbedder files = (.ok corpus, made))
    {index : Index Network}
    (held : corpus.chunkIndex = some index ∨ corpus.entityIndex = some index) :
    ∃ indexName provider, settings.localEmbedder = some provider ∧
      Index.start indexName (Corpus.indexOptions options indexName) provider made = .ok index := by
  obtain ⟨chunkIndex, entityIndex, chunks, entities, rfl⟩ := Corpus.start_ok started
  rcases held with chunk | entity
  · obtain rfl : chunkIndex = some index := chunk
    exact ⟨_, Corpus.startIndex_some chunks⟩
  · obtain rfl : entityIndex = some index := entity
    exact ⟨_, Corpus.startIndex_some entities⟩

theorem blameless_of_start (named : settings.tokenizer environment = .ok tokenizer)
    {corpus : Corpus Network}
    (started : Corpus.start options tokenizer settings.localEmbedder files = (.ok corpus, made)) :
    corpus.Blameless := by
  obtain ⟨smaller, -⟩ := Corpus.prepared_of_start started
  obtain ⟨chunkIndex, entityIndex, -, -, rfl⟩ := Corpus.start_ok started
  refine ⟨smaller, Tokenizer.blamesNoSettings_of_supplied named, ?_⟩
  intro index indexed
  obtain ⟨indexName, provider, given, made⟩ := index_of_start started (.inl indexed)
  rw [Index.embedder_of_start made, localEmbedder_eq_some given]
  exact Embedder.blamesNoSettings_hashed Network _ _

end Offline

/-- Whatever is built from the settings, they are not to blame for a failure. -/
structure Sound (settings : Settings) (environment : Environment) : Prop where
  options : ∃ options, settings.corpusOptions = .ok options
  queryOptions : ∃ options, settings.queryOptions = .ok options
  tokenizer : ∃ tokenizer, settings.tokenizer environment = .ok tokenizer
  /-- A corpus is not started where its directory cannot be made or a snapshot is refused. -/
  starts : ∀ files made complaint,
    settings.startCorpus environment files = (.error complaint, made) →
      ∃ options cause, settings.corpusOptions = .ok options ∧
        complaint = .workingDirectory settings.storage.workingDirectory cause ∧
        Corpus.Unstarted options settings.localEmbedder files cause made ∧ cause.BlamesFiles
  dimensions : ∀ files made corpus, settings.startCorpus environment files = (.ok corpus, made) →
    settings.embeddings.provider = hashProvider →
      ∀ index, corpus.chunkIndex = some index ∨ corpus.entityIndex = some index →
        index.dimension = settings.embeddings.dimension ∧ 0 < index.dimension
  insertions : ∀ files made corpus, settings.startCorpus environment files = (.ok corpus, made) →
    ∀ run, (∀ step ∈ run, step.1.BringsNoBlame) → ∀ texts host cause,
      ((corpus.performAll run).insert texts host).1 ≠ .error (.configuration cause)
  overrides : ∀ (overrides : Overrides) options, settings.queryOptions = .ok options →
    (∀ complaint, overrides.apply options = .error complaint ↔
      (∃ name cause, overrides.mode = some name ∧ QueryMode.ofName name = .error cause ∧
        .failure cause = complaint) ∨
      (∃ mode, overrides.modeOver options.mode = .ok mode) ∧ overrides.matchLimit = some 0 ∧
        complaint = .zeroMatchLimit) ∧
    ∀ asked, overrides.apply options = .ok asked → 1 ≤ asked.matchLimit
  questions : ∀ (inquiry : Inquiry) files options paragraphs,
    inquiry.preparation settings files = .ok (options, paragraphs) → 1 ≤ options.matchLimit

/-- Settings that pass the checks and ask no remote service are sound, where the vocabulary can be
loaded if there is one. -/
theorem accepted_settings_are_sound {settings : Settings} {environment : Environment}
    (accepted : settings.check = .ok ()) (offline : settings.Offline)
    (loads : environment.vocabulary.Loads) : settings.Sound environment := by
  have checked := check_ok_iff.mp accepted
  obtain ⟨options, given⟩ := checked.exists_corpusOptions
  obtain ⟨tokenizer, named⟩ : ∃ tokenizer, settings.tokenizer environment = .ok tokenizer :=
    Tokenizer.exists_suppliedOrSimple loads settings.chunking.tokenizer
  obtain ⟨-, -, sameDirectory, sameSize, sameOverlap⟩ := corpusOptions_ok given
  have advances : options.chunkOverlap < options.chunkSize := by
    rw [sameSize, sameOverlap]
    exact checked.advances
  have positive {asked : QueryOptions} (made : settings.queryOptions = .ok asked) :
      1 ≤ asked.matchLimit := by
    rw [(queryOptions_ok made).2]
    exact checked.matchLimit
  constructor
  case options => exact ⟨options, given⟩
  case queryOptions => exact checked.exists_queryOptions
  case tokenizer => exact ⟨tokenizer, named⟩
  case starts =>
    intro files made complaint failed
    obtain ⟨cause, rfl, unstarted⟩ := offline.unstarted_of_startCorpus named given failed
    exact ⟨options, cause, given, by rw [sameDirectory], unstarted, unstarted.blamesFiles advances⟩
  case dimensions =>
    intro files made corpus started hash index held
    have known := checked.dimension hash
    obtain ⟨indexName, provider, chosen, begun⟩ :=
      index_of_start (offline.start_of_startCorpus named given started) held
    obtain rfl := localEmbedder_eq_some chosen
    rw [Index.dimension_of_embedder begun .start known]
    exact ⟨rfl, Nat.pos_of_ne_zero known⟩
  case insertions =>
    intro files made corpus started run brings texts host cause
    have blameless := blameless_of_start named (offline.start_of_startCorpus named given started)
    exact (blameless.performAll brings).insert_ne_configuration texts host cause
  case overrides =>
    intro overrides asked made
    exact ⟨fun _ => Overrides.apply_error_iff, fun _ => Overrides.pos_of_apply (positive made)⟩
  case questions =>
    intro inquiry files options paragraphs prepared
    obtain ⟨base, made, prepared⟩ := bind_ok_iff.mp prepared
    obtain ⟨asked, applied, prepared⟩ := bind_ok_iff.mp prepared
    obtain ⟨texts, read, prepared⟩ := bind_ok_iff.mp prepared
    cases prepared
    exact Overrides.pos_of_apply (positive (mapError_ok_iff.mp made)) applied

/-- The defaults are sound, with the exact tokenizer that they name. -/
theorem accepted_settings_are_sound_of_defaults :
    ({} : Settings).check = .ok () ∧ Offline {} ∧ Sound {} { vocabulary := .loaded .printable } ∧
      tokenizer {} { vocabulary := .loaded .printable } = .ok (.exact .printable) := by
  have accepted : ({} : Settings).check = .ok () := by decide +kernel
  have offline : Offline {} := ⟨.inl rfl, rfl⟩
  have named : tokenizer {} { vocabulary := .loaded .printable } = .ok (.exact .printable) :=
    Tokenizer.suppliedOrSimple_of_tiktoken (by decide +kernel) .printable
  exact ⟨accepted, offline, accepted_settings_are_sound accepted offline nofun, named⟩

end Settings

end Retrieval
