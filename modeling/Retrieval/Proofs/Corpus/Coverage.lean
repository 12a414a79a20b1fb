import Mathlib.Data.List.Nodup
import Retrieval.Proofs.Chunk
import Retrieval.Proofs.Corpus.Run

/-!
# Chunks and documents of a corpus that counts words

Every chunk of such a corpus is a stretch of words of one of its documents, and
every word of a document is in some chunk (`chunks_cover_documents`).  Chunks
are stored by the digest of their text, so one that came with a document may be
replaced by one that came with another: it has the same text, as long as no two
texts of the corpus share a digest (`Apart`).  The invariant (`Traced`) does not
need that.  It speaks of the identifiers alone.
-/

namespace Retrieval

namespace Corpus

open Tokenizer (plainWords windowText)

variable {σ : Type}

/-! ## Insertion -/

theorem mem_of_mem_loop {α : Type} {same : α → α → Bool} {item : α} {given kept : List α}
    (member : item ∈ List.eraseDupsBy.loop same given kept) : item ∈ given ∨ item ∈ kept := by
  induction given generalizing kept with
  | nil => exact .inr (List.mem_reverse.mp member)
  | cons first rest ih =>
      rw [List.eraseDupsBy.loop] at member
      split at member
      · exact (ih member).imp_left (List.mem_cons_of_mem first)
      · rcases ih member with later | now
        · exact .inl (List.mem_cons_of_mem first later)
        · rcases List.mem_cons.mp now with rfl | before
          · exact .inl List.mem_cons_self
          · exact .inr before

theorem mem_distinctDocuments {texts : List String} {document : Document}
    (member : document ∈ distinctDocuments texts) :
    ∃ text ∈ texts, document = Document.ofText text := by
  rcases mem_of_mem_loop member with given | none
  · obtain ⟨text, told, rfl⟩ := List.mem_map.mp given
    exact ⟨text, told, rfl⟩
  · exact absurd none List.not_mem_nil

/-- The documents of some texts, by identifier. -/
def documentTable (texts : List String) : Table String Document :=
  Table.ofList ((distinctDocuments texts).map fun document => (document.id.text, document))

theorem mem_documentTable {texts : List String} {id : String} {document : Document}
    (found : (documentTable texts).get? id = some document) :
    id = document.id.text ∧ document ∈ distinctDocuments texts := by
  obtain ⟨given, member, same⟩ := List.mem_map.mp (Table.mem_of_get?_ofList found)
  cases same
  exact ⟨rfl, member⟩

theorem contains_documentTable {texts : List String} {document : Document}
    (member : document ∈ distinctDocuments texts) :
    (documentTable texts).contains document.id.text = true :=
  Table.contains_ofList_of_mem (List.mem_map.mpr ⟨document, member, rfl⟩)

/-- An insertion leaves documents and chunks as they are, or it adds the documents of its texts
and the chunks that these are cut into. -/
theorem insert_cases (corpus : Corpus σ) (texts : List String) (host : Host σ) :
    (corpus.insert texts host).2.1.tokenizer = corpus.tokenizer ∧
    (corpus.insert texts host).2.1.options = corpus.options ∧
    (((corpus.insert texts host).2.1.documents = corpus.documents ∧
        (corpus.insert texts host).2.1.chunks = corpus.chunks) ∨
      ∃ pieces, corpus.cut texts = .ok pieces ∧
        (corpus.insert texts host).2.1.documents = corpus.documents.upsert (documentTable texts) ∧
        (corpus.insert texts host).2.1.chunks = corpus.chunks.upsert pieces) := by
  have ending := corpus.inserted texts host
  generalize (corpus.insert texts host).1 = outcome, (corpus.insert texts host).2.1 = after
    at ending ⊢
  cases ending with
  | nothing => exact ⟨rfl, rfl, .inl ⟨rfl, rfl⟩⟩
  | uncut => exact ⟨rfl, rfl, .inl ⟨rfl, rfl⟩⟩
  | @unindexed pieces failure indexed later _ _ refusal =>
      obtain ⟨index, same⟩ := corpus.indexChunks_eq pieces host
      rw [refusal] at same
      cases same
      exact ⟨rfl, rfl, .inl ⟨rfl, rfl⟩⟩
  | @stored pieces indexed later _ cut taken =>
      obtain ⟨index, same⟩ := corpus.indexChunks_eq pieces host
      rw [taken] at same
      cases same
      exact ⟨rfl, rfl, .inr ⟨pieces, cut, rfl, rfl⟩⟩

/-! ## Runs -/

def Operation.texts : Operation σ → List String
  | .insert texts => texts
  | _ => []

/-- The operation leaves the tokenizer in place. -/
def Operation.KeepsTokenizer : Operation σ → Prop
  | .setTokenizer _ => False
  | _ => True

/-- A corpus that counts words, after operations that asked it to insert some texts.  Each of
them may fail, and finds the host in any state. -/
inductive Told : List String → Corpus σ → Prop where
  | start {options : CorpusOptions} {embedder : Option (Embedder σ)} {files made : FileStore}
      {corpus : Corpus σ}
      (started : Corpus.start options .simple embedder files = (.ok corpus, made)) :
      Told [] corpus
  | perform {told : List String} {corpus : Corpus σ} (before : Told told corpus)
      (operation : Operation σ) (keeps : operation.KeepsTokenizer) (host : Host σ) :
      Told (told ++ operation.texts) (operation.perform corpus host).1

/-- Where the documents and the chunks of a corpus come from, and what the chunks hold. -/
structure Traced (told : List String) (corpus : Corpus σ) : Prop where
  tokenizer : corpus.tokenizer = .simple
  documents : ∀ id document, corpus.documents.get? id = some document →
    id = document.id.text ∧ ∃ text ∈ told, document = Document.ofText text
  chunks : ∀ id chunk, corpus.chunks.get? id = some chunk →
    id = chunk.id.text ∧ ∃ text ∈ told, chunk.CutFrom (Document.ofText text) ∧
      corpus.documents.records.contains (Document.ofText text).id.text = true
  covered : ∀ id document, corpus.documents.get? id = some document →
    ∀ place < (plainWords document.content).length, ∃ window : Window, window.Holds place ∧
      corpus.chunks.records.contains
        (ContentId.forChunk (windowText (plainWords document.content) window)).text = true

theorem Traced.more {told : List String} {corpus : Corpus σ} (traced : Traced told corpus)
    (more : List String) : Traced (told ++ more) corpus := by
  have kept {property : String → Prop} (known : ∃ text ∈ told, property text) :
      ∃ text ∈ told ++ more, property text := by
    obtain ⟨text, member, holds⟩ := known
    exact ⟨text, List.mem_append_left more member, holds⟩
  constructor
  case tokenizer => exact traced.tokenizer
  case documents =>
    exact fun id document found => (traced.documents id document found).imp_right kept
  case chunks => exact fun id chunk found => (traced.chunks id chunk found).imp_right kept
  case covered => exact traced.covered

/-- Chunks of new documents trace back to these, and all others to what they did before. -/
theorem Traced.store {told texts : List String} {corpus after : Corpus σ}
    (traced : Traced told corpus) {pieces : Table String Chunk}
    (cut : corpus.cut texts = .ok pieces) (sameTokenizer : after.tokenizer = corpus.tokenizer)
    (documents : after.documents = corpus.documents.upsert (documentTable texts))
    (chunks : after.chunks = corpus.chunks.upsert pieces) : Traced (told ++ texts) after := by
  have made : Chunk.tableOf .simple corpus.options.chunkSize corpus.options.chunkOverlap
      (distinctDocuments texts) = .ok pieces := by
    rw [← traced.tokenizer]
    exact cut
  have documentRecords : after.documents.records =
      corpus.documents.records.merge (documentTable texts) := by
    rw [documents]
    rfl
  have chunkRecords : after.chunks.records = corpus.chunks.records.merge pieces := by
    rw [chunks]
    rfl
  constructor
  case tokenizer => rw [sameTokenizer, traced.tokenizer]
  case documents =>
    intro id document found
    rw [Collection.get?, documentRecords, Table.get?_merge, Option.or_eq_some_iff] at found
    rcases found with new | ⟨-, old⟩
    · obtain ⟨same, member⟩ := mem_documentTable new
      obtain ⟨text, told, rfl⟩ := mem_distinctDocuments member
      exact ⟨same, text, List.mem_append_right _ told, rfl⟩
    · obtain ⟨same, text, told, rfl⟩ := traced.documents id document old
      exact ⟨same, text, List.mem_append_left _ told, rfl⟩
  case chunks =>
    intro id chunk found
    rw [Collection.get?, chunkRecords, Table.get?_merge, Option.or_eq_some_iff] at found
    rw [documentRecords]
    rcases found with new | ⟨-, old⟩
    · obtain ⟨same, document, member, piece⟩ := Chunk.cutFrom_of_tableOf made new
      have present := contains_documentTable member
      obtain ⟨text, told, rfl⟩ := mem_distinctDocuments member
      refine ⟨same, text, List.mem_append_right _ told, piece, ?_⟩
      rw [Table.contains_merge, present, Bool.true_or]
    · obtain ⟨same, text, told, piece, present⟩ := traced.chunks id chunk old
      refine ⟨same, text, List.mem_append_left _ told, piece, ?_⟩
      rw [Table.contains_merge, present, Bool.or_true]
  case covered =>
    intro id document found place inside
    rw [Collection.get?, documentRecords, Table.get?_merge, Option.or_eq_some_iff] at found
    rw [chunkRecords]
    rcases found with new | ⟨-, old⟩
    · obtain ⟨-, member⟩ := mem_documentTable new
      obtain ⟨window, holds, present⟩ := Chunk.contains_tableOf made member inside
      exact ⟨window, holds, by rw [Table.contains_merge, present, Bool.true_or]⟩
    · obtain ⟨window, holds, present⟩ := traced.covered id document old place inside
      exact ⟨window, holds, by rw [Table.contains_merge, present, Bool.or_true]⟩

theorem Traced.insert {told : List String} {corpus : Corpus σ} (traced : Traced told corpus)
    (texts : List String) (host : Host σ) :
    Traced (told ++ texts) (corpus.insert texts host).2.1 := by
  obtain ⟨sameTokenizer, -, ⟨documents, chunks⟩ | ⟨pieces, cut, documents, chunks⟩⟩ :=
    corpus.insert_cases texts host
  · have kept := traced.more texts
    constructor
    case tokenizer => exact sameTokenizer.trans traced.tokenizer
    case documents => exact documents ▸ kept.documents
    case chunks => exact documents ▸ chunks ▸ kept.chunks
    case covered => exact documents ▸ chunks ▸ kept.covered
  · exact traced.store cut sameTokenizer documents chunks

theorem Told.traced {told : List String} {corpus : Corpus σ} (run : Told told corpus) :
    Traced told corpus := by
  induction run with
  | start started =>
      obtain ⟨chunkIndex, entityIndex, -, -, rfl⟩ := start_ok started
      constructor
      case tokenizer => rfl
      case documents => exact fun id document found => nomatch found
      case chunks => exact fun id chunk found => nomatch found
      case covered => exact fun id document found => nomatch found
  | @perform told corpus _ operation keeps host ih =>
      cases operation with
      | insert texts => exact ih.insert texts host
      | answer => exact ih.more []
      | save => exact ih.more []
      | setTokenizer => exact keeps.elim
      | setGenerator =>
          have kept := ih.more []
          exact ⟨kept.tokenizer, kept.documents, kept.chunks, kept.covered⟩
      | setWindows chunkSize chunkOverlap =>
          have kept := ih.more []
          rcases corpus.perform_setWindows chunkSize chunkOverlap host with same | ⟨-, changed⟩
          · rw [same]
            exact kept
          · rw [changed]
            exact ⟨kept.tokenizer, kept.documents, kept.chunks, kept.covered⟩

/-! ## Documents and chunks -/

/-- The content is a stretch of the words of one of some texts, and not empty. -/
def Excerpt (told : List String) (content : String) : Prop :=
  ∃ text ∈ told, ∃ (window : Window) (place : Nat), window.Holds place ∧
    place < (plainWords text).length ∧ content = windowText (plainWords text) window

/-- The digests tell the texts that a corpus was told apart, and their excerpts. -/
structure Apart (told : List String) : Prop where
  texts : ∀ first ∈ told, ∀ second ∈ told,
    ContentId.forDocument first = ContentId.forDocument second → first = second
  excerpts : ∀ first second, Excerpt told first → Excerpt told second →
    ContentId.forChunk first = ContentId.forChunk second → first = second

theorem excerpt_of_cutFrom {told : List String} {text : String} (given : text ∈ told)
    {chunk : Chunk} (piece : chunk.CutFrom (Document.ofText text)) :
    Excerpt told chunk.content := by
  obtain ⟨size, overlap, smaller, starts, count, same⟩ := piece
  refine ⟨text, given, ⟨chunk.order * (size - overlap), chunk.tokens⟩,
    chunk.order * (size - overlap), ⟨Nat.le_refl _, ?_⟩, starts, congrArg Chunk.content same⟩
  dsimp only
  omega

/-- While the digests tell the texts apart, every chunk of a corpus is stored by the digest of
its content, and is a window of a stored document: the document with its identifier.  And every
word of a stored document is in a stretch of its words that is the content of a chunk. -/
theorem chunks_cover_documents {told : List String} {corpus : Corpus σ} (run : Told told corpus)
    (apart : Apart told) :
    (∀ id chunk, corpus.chunks.get? id = some chunk →
      id = (ContentId.forChunk chunk.content).text ∧
      ∃ document size overlap, corpus.documents.get? chunk.document.text = some document ∧
        document.id = chunk.document ∧ overlap < size ∧
        chunk.order * (size - overlap) < (plainWords document.content).length ∧
        chunk.tokens = min size
          ((plainWords document.content).length - chunk.order * (size - overlap)) ∧
        chunk.content = String.intercalate " "
          (((plainWords document.content).drop (chunk.order * (size - overlap))).take
            chunk.tokens)) ∧
    ∀ id document, corpus.documents.get? id = some document →
      ∀ place < (plainWords document.content).length, ∃ key chunk start length,
        corpus.chunks.get? key = some chunk ∧ start ≤ place ∧ place < start + length ∧
        chunk.content = String.intercalate " "
          (((plainWords document.content).drop start).take length) := by
  have traced := run.traced
  constructor
  · intro id chunk found
    obtain ⟨same, text, given, piece, present⟩ := traced.chunks id chunk found
    refine ⟨same, ?_⟩
    obtain ⟨document, stored⟩ := Table.contains_iff.mp present
    obtain ⟨sameId, other, told, rfl⟩ := traced.documents _ document stored
    have digests : ContentId.forDocument text = ContentId.forDocument other :=
      congrArg ContentId.mk sameId
    obtain rfl := apart.texts text given other told digests
    obtain ⟨size, overlap, smaller, starts, count, cut⟩ := piece
    have source : chunk.document = (Document.ofText text).id := congrArg Chunk.document cut
    refine ⟨Document.ofText text, size, overlap, ?_, source.symm, smaller, starts, count,
      congrArg Chunk.content cut⟩
    rw [source]
    exact stored
  · intro id document found place inside
    obtain ⟨window, holds, present⟩ := traced.covered id document found place inside
    obtain ⟨-, text, given, rfl⟩ := traced.documents id document found
    obtain ⟨chunk, stored⟩ := Table.contains_iff.mp present
    obtain ⟨sameId, source, told, piece, -⟩ := traced.chunks _ chunk stored
    have digests : ContentId.forChunk chunk.content =
        ContentId.forChunk (windowText (plainWords text) window) :=
      congrArg ContentId.mk sameId.symm
    have content := apart.excerpts _ _ (excerpt_of_cutFrom told piece)
      ⟨text, given, window, place, holds, inside, rfl⟩ digests
    exact ⟨_, chunk, window.start, window.length, stored, holds.1, holds.2, content⟩

/-! ## Two words in overlapping windows -/

/-- A corpus without an embedder, with windows of two words that overlap in one. -/
def pairing : Corpus Unit where
  options := { workingDirectory := ⟨""⟩, chunkSize := 2, chunkOverlap := 1 }
  tokenizer := .simple
  generator := none
  documents := Collection.empty "full_docs"
  chunks := Collection.empty "text_chunks"
  reports := Collection.empty "community_reports"
  graph := Graph.empty "chunk_entity_relation"
  chunkIndex := none
  entityIndex := none

theorem apart_two_words : Apart ["a b"] := by
  have words : plainWords "a b" = ["a", "b"] := by decide
  have excerpts : ∀ content, Excerpt ["a b"] content → content ∈ ["a", "a b", "b"] := by
    rintro content ⟨text, given, ⟨start, length⟩, place, ⟨before, after⟩, inside, rfl⟩
    obtain rfl := List.mem_singleton.mp given
    rw [words] at inside ⊢
    dsimp only [List.length_cons, List.length_nil] at before after inside
    obtain rfl | rfl : start = 0 ∨ start = 1 := by omega
    all_goals
      rcases length with _ | _ | more
      · omega
      · decide
      · simp [windowText, Window.slice]
  have distinct : (["a", "a b", "b"].map ContentId.forChunk).Nodup := by decide +kernel
  constructor
  case texts =>
    intro first left second right _
    rw [List.mem_singleton.mp left, List.mem_singleton.mp right]
  case excerpts =>
    intro first second left right same
    exact List.inj_on_of_nodup_map distinct (excerpts first left) (excerpts second right) same

/-- The second word of a document of two words is in a chunk of the document. -/
theorem chunks_cover_documents_of_two_words :
    ∃ corpus : Corpus Unit, Told ["a b"] corpus ∧ Apart ["a b"] ∧
      corpus.documents.get? (ContentId.forDocument "a b").text = some (Document.ofText "a b") ∧
      ∃ key chunk start length, corpus.chunks.get? key = some chunk ∧ start ≤ 1 ∧
        1 < start + length ∧
        chunk.content = String.intercalate " " ((["a", "b"].drop start).take length) := by
  have started : Corpus.start pairing.options .simple none FileStore.empty =
      (.ok pairing, FileStore.empty) := rfl
  have run := (Told.start started).perform (.insert ["a b"]) trivial ⟨FileStore.empty, ()⟩
  have stored : (pairing.insert ["a b"] ⟨FileStore.empty, ()⟩).2.1.documents.get?
      (ContentId.forDocument "a b").text = some (Document.ofText "a b") := by
    decide +kernel
  have words : plainWords "a b" = ["a", "b"] := by decide
  obtain ⟨-, covered⟩ := chunks_cover_documents run apart_two_words
  have second := covered _ _ stored 1 (by rw [Document.ofText, words]; decide)
  rw [Document.ofText, words] at second
  exact ⟨_, run, apart_two_words, stored, second⟩

end Corpus

end Retrieval
