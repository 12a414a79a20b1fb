import Retrieval.Proofs.Chunk
import Retrieval.Proofs.Words

/-!
# The words of chunks

Words joined by single blanks split into the same words, so a chunk has the words
that its window had in the document.  Each chunk after the first starts with the
last words of the one before it.  Without these the chunks, in order, have every
word of the document once: after some chunks the words read are those up to the
end of the last window.
-/

namespace Retrieval

namespace Tokenizer

theorem map_toList_plainWords (text : String) :
    (plainWords text).map String.toList = Split.runs separatesWords text.toList := by
  have same : String.toList ∘ String.ofList = id := funext fun _ => String.toList_ofList
  rw [plainWords, List.map_map, same, List.map_id]

theorem longestRuns_plainWords (text : String) :
    Split.LongestRuns separatesWords text.toList ((plainWords text).map String.toList) := by
  rw [map_toList_plainWords]
  exact Split.longestRuns_runs text.toList

theorem plainWords_intercalate {words : List String} (filled : ∀ word ∈ words, word.toList ≠ [])
    (plain : ∀ word ∈ words, ∀ character ∈ word.toList, separatesWords character = false) :
    plainWords (String.intercalate " " words) = words := by
  have blank : " ".toList = [' '] := rfl
  have spelled : String.ofList ∘ String.toList = id := funext fun _ => String.ofList_toList
  rw [plainWords, String.toList_intercalate, blank, Split.runs_intercalate rfl, List.map_map,
    spelled, List.map_id]
  · exact List.forall_mem_map.mpr filled
  · exact List.forall_mem_map.mpr plain

theorem plainWords_windowText (text : String) (window : Window) :
    plainWords (windowText (plainWords text) window) = window.slice (plainWords text) := by
  have run {word : String} (member : word ∈ window.slice (plainWords text)) :
      word.toList ∈ Split.runs separatesWords text.toList := by
    rw [← map_toList_plainWords]
    exact List.mem_map_of_mem (List.mem_of_mem_drop (List.mem_of_mem_take member))
  refine plainWords_intercalate ?_ ?_
  · exact fun word member => Split.ne_nil_of_mem_runs (run member)
  · exact fun word member => (Split.longestRuns_runs _).plain_of_mem (run member)

theorem decodeAligned?_plan (document : String) (windows : List Window)
    (tokensOf : Window → List TokenId) :
    decodeAligned? document (windows.map tokensOf) (windows.map (·.start))
        (windows.map (·.length)) =
      some (windows.map (windowText (plainWords document))) := by
  unfold decodeAligned?
  dsimp only
  rw [if_pos (by simp), List.zip_map', List.zip_map', List.map_map]
  rfl

end Tokenizer

namespace Chunk

open Tokenizer (plainWords windowText)

/-- The chunk has the words of the window of this number. -/
structure HoldsWords (document : Document) (size overlap number : Nat) (chunk : Chunk) : Prop where
  numbered : chunk.order = number
  origin : chunk.document = document.id
  filled : chunk.content ≠ ""
  words : plainWords chunk.content =
    ((plainWords document.content).drop (number * (size - overlap))).take chunk.tokens
  counted : (Tokenizer.simple.encode chunk.content).length = chunk.tokens
  positive : 1 ≤ chunk.tokens
  bounded : chunk.tokens ≤ size

/-- The words of a chunk without those it repeats from the chunk before it. -/
def newWords (overlap : Nat) (chunk : Chunk) : List String :=
  (plainWords chunk.content).drop (if chunk.order = 0 then 0 else min overlap chunk.tokens)

section Numbered

variable {size overlap : Nat} (document : Document) (number : Nat)

theorem plainWords_ofNumber :
    plainWords (ofNumber size overlap document number).content =
      ((plainWords document.content).drop (number * (size - overlap))).take
        (ofNumber size overlap document number).tokens :=
  Tokenizer.plainWords_windowText document.content _

theorem length_plainWords_ofNumber :
    (plainWords (ofNumber size overlap document number).content).length =
      (ofNumber size overlap document number).tokens := by
  rw [plainWords_ofNumber, List.length_take, List.length_drop]
  exact Nat.min_eq_left (Nat.min_le_right size _)

/-- The first chunk is new altogether, and a later one has a stride of new words at most. -/
theorem newWords_ofNumber :
    newWords overlap (ofNumber size overlap document number) =
      if number = 0 then (plainWords document.content).take size
      else ((plainWords document.content).drop (number * (size - overlap) + overlap)).take
        (size - overlap) := by
  have whole : plainWords (ofNumber size overlap document number).content =
      ((plainWords document.content).drop (number * (size - overlap))).take size := by
    rw [plainWords_ofNumber, List.take_eq_take_iff, List.length_drop]
    exact (Nat.min_assoc size _ _).trans (congrArg _ (Nat.min_self _))
  have order : (ofNumber size overlap document number).order = number := rfl
  rw [newWords, order, ← length_plainWords_ofNumber]
  split
  · next first =>
    rw [List.drop_zero, whole, first, Nat.zero_mul, List.drop_zero]
  · rw [← List.drop_eq_drop_min, whole, List.drop_take, List.drop_drop]

variable (smaller : overlap < size)
include smaller

theorem holdsWords_ofNumber {number : Nat}
    (starts : number * (size - overlap) < (plainWords document.content).length) :
    (ofNumber size overlap document number).HoldsWords document size overlap number := by
  obtain ⟨positive, bounded, -⟩ := Window.numbered_within (Nat.zero_lt_of_lt smaller) starts
  have counted := @length_plainWords_ofNumber size overlap document number
  refine
    { numbered := rfl
      origin := rfl
      filled := ?_
      words := plainWords_ofNumber document number
      counted := (length_encodeWords _).trans counted
      positive
      bounded }
  intro blank
  rw [blank] at counted
  exact absurd (counted.trans_ge positive) (by decide)

/-- The new words of the chunks up to one are the words up to the end of its window. -/
theorem flatMap_newWords (last : Nat) :
    (List.range (last + 1)).flatMap
        (fun number => newWords overlap (ofNumber size overlap document number)) =
      (plainWords document.content).take (last * (size - overlap) + size) := by
  induction last with
  | zero =>
      rw [List.range_one, List.flatMap_singleton, newWords_ofNumber, if_pos rfl, Nat.zero_mul,
        Nat.zero_add]
  | succ last ih =>
      have reached : (last + 1) * (size - overlap) + overlap = last * (size - overlap) + size := by
        rw [Nat.succ_mul, Nat.add_assoc, Nat.sub_add_cancel smaller.le]
      have next : (last + 1) * (size - overlap) + size =
          last * (size - overlap) + size + (size - overlap) := by
        rw [Nat.succ_mul, Nat.add_right_comm]
      rw [List.range_succ, List.flatMap_append, ih, List.flatMap_singleton, newWords_ofNumber,
        if_neg (Nat.succ_ne_zero last), reached, next, ← List.take_add]

theorem flatMap_newWords_all :
    (List.range ((plainWords document.content).length ⌈/⌉ (size - overlap))).flatMap
        (fun number => newWords overlap (ofNumber size overlap document number)) =
      plainWords document.content := by
  have reached : (plainWords document.content).length ≤
      (size - overlap) * ((plainWords document.content).length ⌈/⌉ (size - overlap)) :=
    (ceilDiv_le_iff_le_mul (Nat.sub_pos_of_lt smaller)).mp le_rfl
  cases count : (plainWords document.content).length ⌈/⌉ (size - overlap) with
  | zero =>
      rw [count, Nat.mul_zero, Nat.le_zero, List.length_eq_zero_iff] at reached
      rw [reached]
      rfl
  | succ last =>
      rw [count, Nat.mul_comm, Nat.succ_mul] at reached
      rw [flatMap_newWords document smaller]
      exact List.take_of_length_le (reached.trans (Nat.add_le_add_left (Nat.sub_le _ _) _))

end Numbered

/-- Over the word tokenizer a document is always cut, every stretch of tokens that is
read lies in the document, and each chunk has exactly the words of its window.  The
words that are new in each chunk make up the document. -/
theorem words_of_chunks {size overlap : Nat} (smaller : overlap < size) (document : Document) :
    Split.LongestRuns Tokenizer.separatesWords document.content.toList
        ((plainWords document.content).map String.toList) ∧
      ∃ windows chunks,
        Window.plan (Tokenizer.simple.encode document.content).length size overlap = .ok windows ∧
        (∀ window ∈ windows,
          window.start + window.length ≤ (Tokenizer.simple.encode document.content).length) ∧
        Tokenizer.decodeAligned? document.content
            (windows.map fun window => window.slice (Tokenizer.simple.encode document.content))
            (windows.map (·.start)) (windows.map (·.length)) = some (chunks.map (·.content)) ∧
        ofDocument .simple size overlap document = .ok chunks ∧
        chunks.length = (plainWords document.content).length ⌈/⌉ (size - overlap) ∧
        (∀ (number : Nat) (chunk : Chunk), chunks[number]? = some chunk →
          chunk.HoldsWords document size overlap number) ∧
        chunks.flatMap (newWords overlap) = plainWords document.content := by
  have starts {number : Nat}
      (inside : number < (plainWords document.content).length ⌈/⌉ (size - overlap)) :
      number * (size - overlap) < (plainWords document.content).length :=
    (Window.lt_ceilDiv_iff (Nat.sub_pos_of_lt smaller)).mp inside
  have counted : (Tokenizer.simple.encode document.content).length =
      (plainWords document.content).length := length_encodeWords document.content
  rw [counted]
  refine ⟨Tokenizer.longestRuns_plainWords document.content, _, _, Window.plan_eq smaller, ?_, ?_,
    ofDocument_simple smaller document, ?_, ?_, ?_⟩
  · intro window member
    obtain ⟨number, inside, rfl⟩ := List.mem_map.mp member
    exact (Window.numbered_within (Nat.zero_lt_of_lt smaller)
      (starts (List.mem_range.mp inside))).2.2
  · rw [Tokenizer.decodeAligned?_plan, List.map_map, List.map_map]
    rfl
  · rw [List.length_map, List.length_range]
  · intro number chunk found
    obtain ⟨inside, same⟩ := List.getElem?_eq_some_iff.mp found
    rw [List.length_map, List.length_range] at inside
    rw [List.getElem_map, List.getElem_range] at same
    rw [← same]
    exact holdsWords_ofNumber document smaller (starts inside)
  · rw [List.flatMap_map]
    exact flatMap_newWords_all document smaller

/-- The last of three chunks lies in the second one, and adds no word. -/
theorem words_of_chunks_of_three_words :
    1 < 2 ∧ ∃ chunks,
      ofDocument .simple 2 1 ⟨ContentId.forDocument "three", "a  b\n c\t"⟩ = .ok chunks ∧
      chunks.length = 3 ∧ chunks.flatMap (newWords 1) = ["a", "b", "c"] := by
  have words : plainWords "a  b\n c\t" = ["a", "b", "c"] := by decide
  obtain ⟨-, windows, chunks, -, -, -, cut, counted, -, joined⟩ :=
    words_of_chunks (by decide : 1 < 2) ⟨ContentId.forDocument "three", "a  b\n c\t"⟩
  rw [words] at counted joined
  exact ⟨by decide, chunks, cut, counted, joined⟩

end Chunk

end Retrieval
