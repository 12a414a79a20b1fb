import Retrieval.Proofs.Chunk
import Retrieval.Proofs.Table.Size

/-!
# Tables of chunks

Cutting several documents fails as the first document fails that the tokenizer does
not decode.  Else all their windows, document by document, become bindings of one
table.  The keys are then the identifiers of the texts, and under each of them is
the chunk of the last window with such a text, wherever the others were.
-/

namespace Retrieval

namespace Chunk

/-- The chunks are those of the windows of the document, in order. -/
structure CutBy (tokenizer : Tokenizer) (size overlap : Nat) (document : Document)
    (chunks : List Chunk) : Prop where
  texts : textsOf tokenizer size overlap document = .ok (chunks.map (·.content))
  tokens : chunks.map (·.tokens) = (windowsOf tokenizer size overlap document).map (·.length)
  documents : ∀ chunk ∈ chunks, chunk.document = document.id
  orders : chunks.map (·.order) = List.range chunks.length

section Windows

variable (document : Document) {windows : List Window} {texts : List String}

theorem length_ofTexts (each : texts.length = windows.length) :
    (ofTexts document windows texts).length = texts.length := by
  rw [ofTexts, List.length_mapIdx, List.length_zip, each, Nat.min_self]

theorem map_content_ofTexts (each : texts.length = windows.length) :
    (ofTexts document windows texts).map (·.content) = texts := by
  refine List.ext_getElem ?_ ?_
  · rw [List.length_map, length_ofTexts document each]
  · intro order _ _
    simp [ofTexts]

theorem map_tokens_ofTexts (each : texts.length = windows.length) :
    (ofTexts document windows texts).map (·.tokens) = windows.map (·.length) := by
  refine List.ext_getElem ?_ ?_
  · rw [List.length_map, length_ofTexts document each, List.length_map, each]
  · intro order _ _
    simp [ofTexts]

theorem map_order_ofTexts :
    (ofTexts document windows texts).map (·.order) =
      List.range (ofTexts document windows texts).length := by
  refine List.ext_getElem ?_ ?_
  · rw [List.length_map, List.length_range]
  · intro order _ _
    simp [ofTexts]

theorem document_of_mem_ofTexts {chunk : Chunk} (member : chunk ∈ ofTexts document windows texts) :
    chunk.document = document.id := by
  obtain ⟨order, _, rfl⟩ := List.mem_mapIdx.mp member
  rfl

end Windows

section Document

variable {tokenizer : Tokenizer} {size overlap : Nat} {document : Document}

theorem cutBy_of_ofDocument
    (faithful : ∀ text windows texts, tokenizer.decode text windows = .ok texts →
      texts.length = windows.length) {chunks : List Chunk}
    (cut : ofDocument tokenizer size overlap document = .ok chunks) :
    CutBy tokenizer size overlap document chunks := by
  have smaller := lt_of_ofDocument cut
  rw [ofDocument_eq smaller, map_ok_iff] at cut
  obtain ⟨texts, decoded, rfl⟩ := cut
  have each := length_textsOf smaller (faithful document.content) decoded
  exact
    { texts := by rw [map_content_ofTexts document each, decoded]
      tokens := map_tokens_ofTexts document each
      documents := fun _ member => document_of_mem_ofTexts document member
      orders := map_order_ofTexts document }

theorem CutBy.unique {chunks others : List Chunk}
    (cut : CutBy tokenizer size overlap document chunks)
    (other : CutBy tokenizer size overlap document others) : chunks = others := by
  have contents := Except.ok.inj (cut.texts.symm.trans other.texts)
  have counted : chunks.length = others.length := by
    simpa using congrArg List.length contents
  have orders : chunks.map (·.order) = others.map (·.order) := by
    rw [cut.orders, other.orders, counted]
  refine List.ext_getElem counted ?_
  intro place inside within
  have projected {α : Type} {field : Chunk → α} (same : chunks.map field = others.map field) :
      field chunks[place] = field others[place] := by
    simpa [inside, within] using congrArg (·[place]?) same
  have tokens := projected (cut.tokens.trans other.tokens.symm)
  have content := projected contents
  have document := (cut.documents _ (List.getElem_mem inside)).trans
    (other.documents _ (List.getElem_mem within)).symm
  have order := projected orders
  generalize chunks[place] = left, others[place] = right at tokens content document order
  cases left
  cases right
  cases tokens
  cases content
  cases document
  cases order
  rfl

end Document

section Several

variable {tokenizer : Tokenizer} {size overlap : Nat} {documents : List Document}

theorem tableOf_error_of_le (larger : size ≤ overlap) {failure : Failure} :
    tableOf tokenizer size overlap documents = .error failure ↔
      documents ≠ [] ∧ failure = .configuration (.stride size overlap) := by
  rw [tableOf_error_iff]
  cases documents with
  | nil => exact ⟨(nomatch ·), fun failed => absurd rfl failed.1⟩
  | cons first rest =>
      rw [List.mapM_cons, ofDocument_of_le larger]
      constructor
      · intro failed
        cases failed
        exact ⟨List.cons_ne_nil first rest, rfl⟩
      · rintro ⟨-, rfl⟩
        rfl

theorem tableOf_error_of_lt (smaller : overlap < size) {failure : Failure} :
    tableOf tokenizer size overlap documents = .error failure ↔
      ∃ before document after, documents = before ++ document :: after ∧
        (∀ earlier ∈ before, ∀ other, ¬ Undecodable tokenizer size overlap earlier other) ∧
        Undecodable tokenizer size overlap document failure := by
  rw [tableOf_error_iff, mapM_error_iff]
  simp only [exists_ofDocument_iff smaller, ofDocument_error_iff smaller]

end Several

section Last

variable {chunks : List Chunk} {key : String}

theorem get?_ofChunks_eq_some_iff {chunk : Chunk} :
    (Table.ofList (chunks.map fun chunk => (chunk.id.text, chunk))).get? key = some chunk ↔
      ∃ before after, chunks = before ++ chunk :: after ∧ chunk.id.text = key ∧
        ∀ later ∈ after, later.id.text ≠ key := by
  rw [Table.get?_ofList_eq_some_iff]
  constructor
  · rintro ⟨front, back, split, others⟩
    obtain ⟨before, rest, rfl, rfl, tail⟩ := List.map_eq_append_iff.mp split
    obtain ⟨first, after, rfl, head, rfl⟩ := List.map_eq_cons_iff.mp tail
    cases head
    exact ⟨before, after, rfl, rfl, fun later member => others _ (List.mem_map_of_mem member)⟩
  · rintro ⟨before, after, rfl, rfl, others⟩
    refine ⟨_, _, List.map_append, ?_⟩
    intro binding member
    obtain ⟨later, inside, rfl⟩ := List.mem_map.mp member
    exact others later inside

theorem contains_ofChunks_iff :
    (Table.ofList (chunks.map fun chunk => (chunk.id.text, chunk))).contains key = true ↔
      ∃ chunk ∈ chunks, (ContentId.forChunk chunk.content).text = key := by
  rw [Table.contains_ofList_iff]
  constructor
  · rintro ⟨binding, member, rfl⟩
    obtain ⟨chunk, inside, rfl⟩ := List.mem_map.mp member
    exact ⟨chunk, inside, rfl⟩
  · rintro ⟨chunk, inside, rfl⟩
    exact ⟨_, List.mem_map_of_mem inside, rfl⟩

theorem size_ofChunks
    (apart : ∀ first ∈ chunks, ∀ second ∈ chunks, first.id = second.id →
      first.content = second.content) :
    {text | ∃ chunk ∈ chunks, chunk.content = text}.encard =
      (Table.ofList (chunks.map fun chunk => (chunk.id.text, chunk))).size := by
  have listed : {key | (Table.ofList (chunks.map fun chunk => (chunk.id.text, chunk))).contains
      key = true} = (fun text => (ContentId.forChunk text).text) ''
        {text | ∃ chunk ∈ chunks, chunk.content = text} := by
    ext key
    refine contains_ofChunks_iff.trans ⟨?_, ?_⟩
    · rintro ⟨chunk, inside, rfl⟩
      exact ⟨chunk.content, ⟨chunk, inside, rfl⟩, rfl⟩
    · rintro ⟨text, ⟨chunk, inside, rfl⟩, rfl⟩
      exact ⟨chunk, inside, rfl⟩
  rw [← Table.encard_keys, listed]
  refine (Set.InjOn.encard_image ?_).symm
  rintro _ ⟨first, inside, rfl⟩ _ ⟨second, within, rfl⟩ same
  exact apart first inside second within (congrArg ContentId.mk same)

end Last

/-- Several documents are cut unless the windows leave no stride, or the tokenizer fails
on one of them; the first such document gives the error.  The table of their chunks has
the identifiers of the texts of all windows, and of the windows with one identifier the
last one made the chunk. -/
theorem tableOf_keeps_last {tokenizer : Tokenizer}
    (faithful : ∀ text windows texts, tokenizer.decode text windows = .ok texts →
      texts.length = windows.length)
    (size overlap : Nat) (documents : List Document) :
    (∀ failure, tableOf tokenizer size overlap documents = .error failure ↔
      (size ≤ overlap ∧ documents ≠ [] ∧ failure = .configuration (.stride size overlap)) ∨
      (overlap < size ∧ ∃ before document after, documents = before ++ document :: after ∧
        (∀ earlier ∈ before, ∀ other, ¬ Undecodable tokenizer size overlap earlier other) ∧
        Undecodable tokenizer size overlap document failure)) ∧
    ∀ table, tableOf tokenizer size overlap documents = .ok table →
      ∃ lists, List.Forall₂ (CutBy tokenizer size overlap) documents lists ∧
        (∀ key, table.contains key = true ↔
          ∃ chunk ∈ lists.flatten, (ContentId.forChunk chunk.content).text = key) ∧
        (∀ key chunk, table.get? key = some chunk ↔
          ∃ before after, lists.flatten = before ++ chunk :: after ∧
            (ContentId.forChunk chunk.content).text = key ∧
            ∀ later ∈ after, (ContentId.forChunk later.content).text ≠ key) ∧
        ((∀ first ∈ lists.flatten, ∀ second ∈ lists.flatten,
            ContentId.forChunk first.content = ContentId.forChunk second.content →
            first.content = second.content) →
          {text | ∃ chunk ∈ lists.flatten, chunk.content = text}.encard = table.size) := by
  constructor
  · intro failure
    rcases Nat.lt_or_ge overlap size with smaller | larger
    · have strides : ¬ size ≤ overlap := not_le.mpr smaller
      rw [tableOf_error_of_lt smaller, or_iff_right fun stuck => strides stuck.1,
        and_iff_right smaller]
    · have stuck : ¬ overlap < size := not_lt.mpr larger
      rw [tableOf_error_of_le larger, or_iff_left fun strides => stuck strides.1,
        and_iff_right larger]
  · intro table made
    obtain ⟨lists, cut, rfl⟩ := tableOf_ok_iff.mp made
    refine ⟨lists, ?_, fun _ => contains_ofChunks_iff, fun _ _ => get?_ofChunks_eq_some_iff,
      size_ofChunks⟩
    exact (mapM_ok_iff.mp cut).imp fun _ _ done => cutBy_of_ofDocument faithful done

/-- Three windows of two documents have one text, and the last of them made the chunk. -/
theorem tableOf_keeps_last_of_repetition :
    (∀ text windows texts, Tokenizer.simple.decode text windows = .ok texts →
      texts.length = windows.length) ∧
    ∃ table, tableOf .simple 1 0 [Document.ofText "a", Document.ofText "a a"] = .ok table ∧
      table.get? (ContentId.forChunk "a").text =
        some ⟨1, "a", ContentId.forDocument "a a", 1⟩ := by
  have faithful : ∀ text windows texts, Tokenizer.simple.decode text windows = .ok texts →
      texts.length = windows.length := by
    rintro text windows _ ⟨⟩
    exact List.length_map _
  have cutOne : CutBy .simple 1 0 (Document.ofText "a")
      [⟨1, "a", ContentId.forDocument "a", 0⟩] :=
    { texts := textsOf_simple (by decide) (Document.ofText "a")
      tokens := by decide
      documents := List.forall_mem_singleton.mpr rfl
      orders := rfl }
  have cutTwo : CutBy .simple 1 0 (Document.ofText "a a")
      [⟨1, "a", ContentId.forDocument "a a", 0⟩, ⟨1, "a", ContentId.forDocument "a a", 1⟩] :=
    { texts := textsOf_simple (by decide) (Document.ofText "a a")
      tokens := by decide
      documents := by simp [Document.ofText]
      orders := rfl }
  obtain ⟨fails, keeps⟩ :=
    tableOf_keeps_last faithful 1 0 [Document.ofText "a", Document.ofText "a a"]
  cases made : tableOf .simple 1 0 [Document.ofText "a", Document.ofText "a a"] with
  | error failure =>
      rcases (fails failure).mp made with ⟨none, -⟩ | ⟨-, _, _, _, -, -, -, failed⟩
      · exact absurd none (by decide)
      · cases failed
  | ok table =>
      obtain ⟨lists, cut, -, last, -⟩ := keeps table made
      refine ⟨faithful, table, rfl, (last _ _).mpr ?_⟩
      cases cut with
      | cons one others =>
      cases others with
      | cons two none =>
      cases none
      rw [one.unique cutOne, two.unique cutTwo]
      exact ⟨[_, _], [], rfl, rfl, fun _ absent => absurd absent List.not_mem_nil⟩

end Chunk

end Retrieval
