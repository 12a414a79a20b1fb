import Retrieval.Command
import Retrieval.Proofs.Corpus.Repetition
import Retrieval.Proofs.Corpus.Restart
import Retrieval.Proofs.Embedder
import Retrieval.Proofs.Settings.Offline

/-!
# Previews foretell insertions

A preview lists the chunks of a text in order, and an insertion of the text keeps
them in a table.  Both come from the same windows, so a new corpus holds the
chunks that were previewed, of those with one identifier the last
(`preview_foretells_insert`).
-/

namespace Retrieval

open Http (Network)

/-! ## Previews and tables -/

/-- The summary and the chunks of an insertion are those that some previews tell. -/
structure Preview.Foretell (previews : List Preview) (summary : InsertSummary)
    (chunks : Collection Chunk) : Prop where
  keys : ∀ id, chunks.records.contains id = true ↔ ∃ preview ∈ previews, preview.id.text = id
  last : ∀ before preview after, previews = before ++ preview :: after →
    (∀ later ∈ after, later.id ≠ preview.id) →
    ∃ chunk, chunks.get? preview.id.text = some chunk ∧
      chunk.order = preview.order ∧ chunk.tokens = preview.tokens
  count : {id | ∃ preview ∈ previews, preview.id = id}.encard = summary.chunks

theorem ContentId.text_injective : Function.Injective ContentId.text := by
  rintro ⟨first⟩ ⟨second⟩ same
  exact congrArg ContentId.mk same

namespace Preview

variable {chunks : List Chunk} {collection : Collection Chunk} {summary : InsertSummary}

theorem exists_preview_iff {holds : ContentId → Prop} :
    (∃ preview ∈ chunks.map ofChunk, holds preview.id) ↔ ∃ chunk ∈ chunks, holds chunk.id := by
  constructor
  · rintro ⟨preview, member, holding⟩
    obtain ⟨chunk, inside, rfl⟩ := List.mem_map.mp member
    exact ⟨chunk, inside, holding⟩
  · rintro ⟨chunk, inside, holding⟩
    exact ⟨ofChunk chunk, List.mem_map_of_mem inside, holding⟩

theorem foretell_of_chunks
    (stored : collection.records =
      Table.ofList (chunks.map fun chunk => (chunk.id.text, chunk)))
    (counted : summary.chunks = collection.records.size) :
    Foretell (chunks.map ofChunk) summary collection := by
  have keys (id : String) : collection.records.contains id = true ↔
      ∃ preview ∈ chunks.map ofChunk, preview.id.text = id := by
    rw [stored]
    exact Chunk.contains_ofChunks_iff.trans (@exists_preview_iff _ fun own => own.text = id).symm
  constructor
  case keys => exact keys
  case last =>
    intro before preview after split others
    obtain ⟨front, rest, rfl, rfl, tail⟩ := List.map_eq_append_iff.mp split
    obtain ⟨chunk, back, rfl, rfl, rfl⟩ := List.map_eq_cons_iff.mp tail
    refine ⟨chunk, ?_, rfl, rfl⟩
    rw [Collection.get?, stored]
    refine Chunk.get?_ofChunks_eq_some_iff.mpr ⟨front, back, rfl, rfl, ?_⟩
    intro later member same
    exact others (ofChunk later) (List.mem_map_of_mem member) (ContentId.text_injective same)
  case count =>
    have listed : {id | collection.records.contains id = true} =
        ContentId.text '' {id | ∃ preview ∈ chunks.map ofChunk, preview.id = id} := by
      ext id
      refine (keys id).trans ?_
      constructor
      · rintro ⟨preview, member, rfl⟩
        exact ⟨preview.id, ⟨preview, member, rfl⟩, rfl⟩
      · rintro ⟨_, ⟨preview, member, rfl⟩, rfl⟩
        exact ⟨preview, member, rfl⟩
    rw [counted, ← Table.encard_keys, listed, ContentId.text_injective.encard_image]

end Preview

/-! ## New corpora in memory -/

theorem Embedder.hashed_maps {σ : Type} {dimension : Nat} (positive : dimension ≠ 0)
    (tokenLimit : Nat) :
    (Embedder.hashed σ dimension tokenLimit).Maps (hashText dimension tokenLimit) where
  known := Nat.pos_of_ne_zero positive
  settled := fun _ _ => rfl
  length := length_hashText dimension tokenLimit

namespace Corpus

variable {σ : Type}

/-- A corpus without chunks, whose chunk index has no records and keeps no snapshot. -/
structure New (corpus : Corpus σ) (options : CorpusOptions) (tokenizer : Tokenizer)
    (embedder : Option (Embedder σ)) : Prop where
  sameOptions : corpus.options = options
  sameTokenizer : corpus.tokenizer = tokenizer
  noChunks : corpus.chunks.records = Table.empty
  noRecords : ∀ index, corpus.chunkIndex = some index → options.index.backend = .memory ∧
    ∃ provider, embedder = some provider ∧ index = blankIndex options provider chunkIndexName

section New

variable {options : CorpusOptions} {tokenizer : Tokenizer} {embedder : Option (Embedder σ)}
  {files made : FileStore}

theorem backend_indexOptions (options : CorpusOptions) (indexName : String) :
    (indexOptions options indexName).backend = options.index.backend := by
  rw [indexOptions]

theorem exists_startIndex (kept : embedder = none ∨ options.index.backend = .memory)
    (files : FileStore) (indexName : String) (isWanted : Bool) :
    ∃ index, startIndex options embedder files indexName isWanted = .ok index := by
  cases embedder with
  | none => exact ⟨none, rfl⟩
  | some provider =>
      have inMemory : (indexOptions options indexName).backend = .memory := by
        rw [backend_indexOptions]
        exact kept.resolve_left nofun
      exact ⟨_, startIndex_eq fun _ => Index.start_eq_fresh (.inl inMemory)⟩

theorem exists_start_in_memory (smaller : options.chunkOverlap < options.chunkSize)
    (kept : embedder = none ∨ options.index.backend = .memory)
    (directories : files.makeDirectories options.workingDirectory = (true, made))
    (tokenizer : Tokenizer) :
    ∃ corpus, Corpus.start options tokenizer embedder files = (.ok corpus, made) ∧
      corpus.New options tokenizer embedder := by
  obtain ⟨chunkIndex, chunks⟩ :=
    exists_startIndex kept made chunkIndexName options.indexesChunks
  obtain ⟨entityIndex, entities⟩ :=
    exists_startIndex kept made entityIndexName options.indexesEntities
  refine ⟨_, start_of_indexes smaller directories chunks entities tokenizer, rfl, rfl, rfl, ?_⟩
  intro index indexed
  obtain rfl : chunkIndex = some index := indexed
  obtain ⟨provider, rfl, started⟩ := startIndex_some chunks
  have inMemory : options.index.backend = .memory := kept.resolve_left nofun
  refine ⟨inMemory, provider, rfl, Index.start_of_memory started ?_⟩
  rw [backend_indexOptions, inMemory]

theorem New.insert {corpus : Corpus σ} (new : corpus.New options tokenizer embedder)
    {embeddingOf : String → Embedding}
    (maps : ∀ provider, embedder = some provider → provider.Maps embeddingOf)
    {chunksOf : Document → List Chunk}
    (cuts : ∀ document, Chunk.ofDocument tokenizer options.chunkSize options.chunkOverlap document =
      .ok (chunksOf document)) (text : String) (host : Host σ) :
    ∃ summary grown later, corpus.insert [text] host = (.ok summary, grown, later) ∧
      grown.chunks.records = Table.ofList ((chunksOf (Document.ofText text)).map fun chunk =>
        (chunk.id.text, chunk)) ∧
      summary.chunks = grown.chunks.records.size := by
  obtain ⟨rfl, rfl, empty, blank⟩ := new
  have mapped (index : Index σ) (indexed : corpus.chunkIndex = some index) :
      index.options = indexOptions corpus.options chunkIndexName ∧
        index.dimension = index.embedder.dimension ∧ index.embedder.Maps embeddingOf := by
    obtain ⟨-, provider, given, rfl⟩ := blank index indexed
    exact ⟨rfl, rfl, maps provider given⟩
  have steady : corpus.Steady fun texts => .ok (texts.map embeddingOf) := by
    intro index indexed
    obtain ⟨-, dimension, map⟩ := mapped index indexed
    exact ⟨dimension ▸ Nat.ne_of_gt map.known, map.settled⟩
  have saves : corpus.Saves host.files := by
    refine saves_of_memory (fun index indexed => ?_) host.files
    obtain ⟨inMemory, provider, -, rfl⟩ := blank index indexed
    rw [backend_blankIndex, inMemory]
  obtain ⟨later, inserted, -⟩ := insert_of_adds steady (adds_ofDocuments mapped cuts [text]) saves
  have once : distinctDocuments [text] = [Document.ofText text] := rfl
  rw [once] at inserted
  have stored : (Growth.ofDocuments (indexOptions corpus.options chunkIndexName) embeddingOf
      chunksOf [Document.ofText text]).chunks =
      Table.ofList ((chunksOf (Document.ofText text)).map fun chunk => (chunk.id.text, chunk)) := by
    rw [Growth.ofDocuments, List.flatMap_singleton]
  have grown (growth : Growth) : (corpus.absorb growth).chunks.records = growth.chunks := by
    change corpus.chunks.records.merge growth.chunks = growth.chunks
    rw [empty, Table.empty_merge]
  refine ⟨_, _, later, inserted, (grown _).trans stored, ?_⟩
  rw [grown]

end New

end Corpus

/-! ## Previews and insertions -/

namespace Settings

variable {settings : Settings}

theorem localEmbedder_maps (checked : settings.Accepted) {provider : Embedder Network}
    (given : settings.localEmbedder = some provider) :
    provider.Maps
      (Embedder.hashText settings.embeddings.dimension settings.embeddings.tokenLimit) := by
  have hash : settings.embeddings.provider = hashProvider := by
    unfold localEmbedder at given
    exact (Option.ite_none_right_eq_some.mp given).1
  rw [localEmbedder_eq_some given]
  exact Embedder.hashed_maps (checked.dimension hash) settings.embeddings.tokenLimit

theorem localEmbedder_of_disabled (none : settings.embeddings.provider = disabled) :
    settings.localEmbedder = .none := by
  unfold localEmbedder
  rw [none]
  rfl

/-- Accepted settings without a generator, and without an embedder or with the hash embedder in
memory, preview every text.  A corpus that is started with them takes the text, and has the chunks
that were previewed. -/
theorem preview_foretells_insert {environment : Environment}
    (accepted : settings.check = .ok ()) (silent : settings.generation.provider = disabled)
    (kept : settings.embeddings.provider = disabled ∨
      settings.embeddings.provider = hashProvider ∧
        Backend.ofName settings.vectors.backend = .ok .memory)
    (supply : environment.vocabulary.Sound) (text : String) :
    ∃ previews, settings.preview environment text = .ok previews ∧
      previews.map (·.order) = List.range previews.length ∧
      ∀ files made, files.makeDirectories settings.storage.workingDirectory = (true, made) →
        ∃ corpus, settings.startCorpus environment files = (.ok corpus, made) ∧
          ∀ host, ∃ summary grown later,
            corpus.insert [text] host = (.ok summary, grown, later) ∧
            Preview.Foretell previews summary grown.chunks := by
  have checked := check_ok_iff.mp accepted
  have offline : settings.Offline := ⟨kept.symm.imp_left And.left, silent⟩
  obtain ⟨options, given⟩ := checked.exists_corpusOptions
  obtain ⟨-, placed, sameDirectory, sameSize, sameOverlap⟩ := corpusOptions_ok given
  obtain ⟨tokenizer, named⟩ : ∃ tokenizer, settings.tokenizer environment = .ok tokenizer :=
    Tokenizer.exists_suppliedOrSimple supply.loads settings.chunking.tokenizer
  have restores := Tokenizer.restores_of_supplied supply named
  have smaller : options.chunkOverlap < options.chunkSize := by
    rw [sameSize, sameOverlap]
    exact checked.advances
  have inMemory : settings.localEmbedder = none ∨ options.index.backend = .memory :=
    kept.imp localEmbedder_of_disabled fun hash => Except.ok.inj (placed.symm.trans hash.2)
  choose chunksOf cuts using fun document : Document =>
    Chunk.exists_ofDocument_of_decoded smaller (restores.restores document.content _)
  have cut := Chunk.cutBy_of_ofDocument restores.faithful (cuts (Document.ofText text))
  refine ⟨(chunksOf (Document.ofText text)).map .ofChunk, ?_, ?_, ?_⟩
  · refine bind_ok_iff.mpr ⟨tokenizer, named, ?_⟩
    rw [Preview.ofText, ← sameSize, ← sameOverlap, cuts]
    rfl
  · rw [List.length_map, List.map_map]
    exact cut.orders
  · intro files made directories
    rw [← sameDirectory] at directories
    obtain ⟨corpus, started, new⟩ :=
      Corpus.exists_start_in_memory smaller inMemory directories tokenizer
    refine ⟨corpus, ?_, ?_⟩
    · rw [offline.startCorpus_eq named given, started]
      rfl
    · intro host
      obtain ⟨summary, grown, later, inserted, stored, counted⟩ :=
        new.insert (fun _ => localEmbedder_maps checked) cuts text host
      exact ⟨summary, grown, later, inserted, Preview.foretell_of_chunks stored counted⟩

/-- Settings that make every token a chunk. -/
def tokenwise : Settings := { chunking := { size := 1, overlap := 0 } }

/-- Of three chunks the last has the text of the first, and is the one that is kept. -/
theorem preview_foretells_insert_of_repetition :
    ∃ (environment : Environment) (files made : FileStore) (corpus : Corpus Network),
      tokenwise.tokenizer environment = .ok (.exact .printable) ∧
      tokenwise.preview environment "1!1" =
        .ok [⟨0, 1, .forChunk "1", "1"⟩, ⟨1, 1, .forChunk "!", "!"⟩, ⟨2, 1, .forChunk "1", "1"⟩] ∧
      tokenwise.startCorpus environment files = (.ok corpus, made) ∧
      ∀ host, ∃ summary grown later chunk,
        corpus.insert ["1!1"] host = (.ok summary, grown, later) ∧
        grown.chunks.get? (ContentId.forChunk "1").text = some chunk ∧ chunk.order = 2 := by
  let environment : Environment := { vocabulary := .loaded .printable }
  have accepted : tokenwise.check = .ok () := by decide +kernel
  have inMemory : Backend.ofName tokenwise.vectors.backend = .ok .memory := by decide +kernel
  have named : tokenwise.tokenizer environment = .ok (.exact .printable) :=
    Tokenizer.suppliedOrSimple_of_tiktoken (by decide +kernel) .printable
  have shown : tokenwise.preview environment "1!1" =
      .ok [⟨0, 1, .forChunk "1", "1"⟩, ⟨1, 1, .forChunk "!", "!"⟩,
        ⟨2, 1, .forChunk "1", "1"⟩] := by
    decide +kernel
  have created : (FileStore.empty.makeDirectories tokenwise.storage.workingDirectory).1 = true := by
    decide +kernel
  have sound : environment.vocabulary.Sound := Vocabulary.Supply.sound_printable
  obtain ⟨previews, found, -, starts⟩ :=
    preview_foretells_insert accepted rfl (.inr ⟨rfl, inMemory⟩) sound "1!1"
  obtain rfl := Except.ok.inj (shown.symm.trans found)
  obtain ⟨corpus, started, inserts⟩ := starts FileStore.empty _ (Prod.ext created rfl)
  refine ⟨environment, FileStore.empty, _, corpus, named, shown, started, ?_⟩
  intro host
  obtain ⟨summary, grown, later, inserted, foretold⟩ := inserts host
  obtain ⟨chunk, kept, order, -⟩ := foretold.last [_, _] _ [] rfl nofun
  exact ⟨summary, grown, later, chunk, inserted, kept, order⟩

end Settings

end Retrieval
