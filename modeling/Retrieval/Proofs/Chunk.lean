import Retrieval.Proofs.Chunk.Cut
import Retrieval.Proofs.Table

/-!
# Chunks of counted words

The word tokenizer gives each window of a document the words that lie in it.
So a chunk is a stretch of words of its document, and the chunks of a document
hold every word of it.
-/

namespace Retrieval

namespace Chunk

open Tokenizer (plainWords windowText)

/-- The chunk that a window of a document becomes. -/
def ofWindow (document : Document) (order : Nat) (window : Window) : Chunk :=
  ⟨window.length, windowText (plainWords document.content) window, document.id, order⟩

/-- The chunk is a window of the document for some size and overlap. -/
def CutFrom (document : Document) (chunk : Chunk) : Prop :=
  ∃ size overlap, overlap < size ∧
    chunk.order * (size - overlap) < (plainWords document.content).length ∧
    chunk.tokens = min size
      ((plainWords document.content).length - chunk.order * (size - overlap)) ∧
    chunk = ofWindow document chunk.order ⟨chunk.order * (size - overlap), chunk.tokens⟩

theorem length_encodeWords (text : String) :
    (Tokenizer.encodeWords text).length = (plainWords text).length :=
  List.length_map _

theorem textsOf_simple {size overlap : Nat} (smaller : overlap < size) (document : Document) :
    textsOf .simple size overlap document =
      .ok ((windowsOf .simple size overlap document).map
        (windowText (plainWords document.content))) := by
  unfold textsOf
  dsimp only
  split
  · next none =>
    rw [(windowsOf_eq_nil_iff smaller).mpr none]
    rfl
  · dsimp only [Tokenizer.simple]
    rw [List.map_map]
    rfl

/-- The chunk of a number, over the word tokenizer. -/
def ofNumber (size overlap : Nat) (document : Document) (number : Nat) : Chunk :=
  ofWindow document number
    (Window.numbered (plainWords document.content).length size (size - overlap) number)

/-- A document is cut if windows can be planned, and each window becomes a chunk. -/
theorem ofDocument_simple {size overlap : Nat} (smaller : overlap < size) (document : Document) :
    ofDocument .simple size overlap document =
      .ok ((List.range ((plainWords document.content).length ⌈/⌉ (size - overlap))).map
        (ofNumber size overlap document)) := by
  rw [ofDocument_eq smaller, textsOf_simple smaller, Except.map, ofTexts_map, windowsOf]
  dsimp only [Tokenizer.simple]
  rw [length_encodeWords]
  congr 1
  apply List.ext_getElem
  · rw [List.length_mapIdx, List.length_map, List.length_map]
  · intro number _ _
    rw [List.getElem_mapIdx, List.getElem_map, List.getElem_map, List.getElem_range]
    rfl

section Document

variable {size overlap : Nat} {document : Document} {chunks : List Chunk}

theorem cutFrom_of_mem (cut : ofDocument .simple size overlap document = .ok chunks)
    {chunk : Chunk} (member : chunk ∈ chunks) : CutFrom document chunk := by
  have smaller := lt_of_ofDocument cut
  rw [ofDocument_simple smaller] at cut
  cases cut
  obtain ⟨number, counted, rfl⟩ := List.mem_map.mp member
  have starts := (Window.lt_ceilDiv_iff (Nat.sub_pos_of_lt smaller)).mp (List.mem_range.mp counted)
  exact ⟨size, overlap, smaller, starts, rfl, rfl⟩

theorem exists_chunk_of_lt (cut : ofDocument .simple size overlap document = .ok chunks)
    {place : Nat} (inside : place < (plainWords document.content).length) :
    ∃ chunk ∈ chunks, ∃ window : Window, window.Holds place ∧
      chunk.content = windowText (plainWords document.content) window := by
  have smaller := lt_of_ofDocument cut
  rw [ofDocument_simple smaller] at cut
  cases cut
  obtain ⟨window, member, holds⟩ := Window.exists_holds_of_plan (Window.plan_eq smaller) inside
  obtain ⟨number, counted, rfl⟩ := List.mem_map.mp member
  exact ⟨ofNumber size overlap document number, List.mem_map_of_mem counted, _, holds, rfl⟩

end Document

section Several

variable {size overlap : Nat} {documents : List Document} {table : Table String Chunk}

theorem cutFrom_of_tableOf (made : tableOf .simple size overlap documents = .ok table)
    {id : String} {chunk : Chunk} (found : table.get? id = some chunk) :
    id = chunk.id.text ∧ ∃ document ∈ documents, CutFrom document chunk := by
  obtain ⟨lists, cut, rfl⟩ := tableOf_ok_iff.mp made
  obtain ⟨known, inside, same⟩ := List.mem_map.mp (Table.mem_of_get?_ofList found)
  cases same
  obtain ⟨chunks, listed, member⟩ := List.mem_flatten.mp inside
  obtain ⟨document, given, done⟩ := (mem_mapM_ok cut).2 chunks listed
  exact ⟨rfl, document, given, cutFrom_of_mem done member⟩

theorem contains_tableOf (made : tableOf .simple size overlap documents = .ok table)
    {document : Document} (given : document ∈ documents) {place : Nat}
    (inside : place < (plainWords document.content).length) :
    ∃ window : Window, window.Holds place ∧ table.contains
      (ContentId.forChunk (windowText (plainWords document.content) window)).text = true := by
  obtain ⟨lists, cut, rfl⟩ := tableOf_ok_iff.mp made
  obtain ⟨chunks, listed, done⟩ := (mem_mapM_ok cut).1 document given
  obtain ⟨chunk, member, window, holds, content⟩ := exists_chunk_of_lt done inside
  refine ⟨window, holds, ?_⟩
  rw [← content]
  exact Table.contains_ofList_of_mem (List.mem_map.mpr
    ⟨chunk, List.mem_flatten.mpr ⟨chunks, listed, member⟩, rfl⟩)

end Several

end Chunk

end Retrieval
