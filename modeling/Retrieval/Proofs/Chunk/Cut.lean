import Retrieval.Chunk
import Retrieval.Proofs.Outcome
import Retrieval.Proofs.Window

/-!
# A document in windows

Over any tokenizer a document is cut at the windows of its tokens, if windows can
be planned at all.  What may still fail then is the tokenizer, when it gives the
windows their texts.  Several documents are cut one after the other, up to the
first that fails.
-/

namespace Retrieval

namespace Chunk

section Document

variable (tokenizer : Tokenizer) (size overlap : Nat) (document : Document)

def windowsOf : List Window :=
  let count := (tokenizer.encode document.content).length
  (List.range (count ⌈/⌉ (size - overlap))).map (Window.numbered count size (size - overlap))

/-- The texts of these windows.  Without any the tokenizer is not asked. -/
def textsOf : Except Failure (List String) :=
  let tokens := tokenizer.encode document.content
  if tokens = [] then .ok []
  else tokenizer.decode document.content
    ((windowsOf tokenizer size overlap document).map fun window => (window, window.slice tokens))

/-- The document has tokens, and the tokenizer fails on their windows. -/
def Undecodable (failure : Failure) : Prop :=
  tokenizer.encode document.content ≠ [] ∧
    tokenizer.decode document.content
      ((windowsOf tokenizer size overlap document).map fun window =>
        (window, window.slice (tokenizer.encode document.content))) = .error failure

/-- Windows with texts as chunks of a document. -/
def ofTexts (windows : List Window) (texts : List String) : List Chunk :=
  (texts.zip windows).mapIdx fun order entry => ⟨entry.2.length, entry.1, document.id, order⟩

end Document

theorem ofTexts_map (document : Document) (windows : List Window) (textOf : Window → String) :
    ofTexts document windows (windows.map textOf) =
      windows.mapIdx fun order window => ⟨window.length, textOf window, document.id, order⟩ := by
  have paired : (windows.map textOf).zip windows =
      windows.map fun window => (textOf window, window) :=
    calc (windows.map textOf).zip windows
        = (windows.map textOf).zip (windows.map fun window => window) := by rw [List.map_id']
      _ = _ := List.zip_map'
  rw [ofTexts, paired]
  apply List.ext_getElem?
  intro order
  rw [List.getElem?_mapIdx, List.getElem?_mapIdx, List.getElem?_map, Option.map_map]
  rfl

variable {tokenizer : Tokenizer} {size overlap : Nat} {document : Document}

theorem ofDocument_of_le (larger : size ≤ overlap) (document : Document) :
    ofDocument tokenizer size overlap document =
      .error (.configuration (.stride size overlap)) := by
  have unplanned : Window.plan (tokenizer.encode document.content).length size overlap =
      .error (.configuration (.stride size overlap)) := dif_neg (not_lt.mpr larger)
  unfold ofDocument
  dsimp only
  rw [unplanned]
  rfl

theorem lt_of_ofDocument {chunks : List Chunk}
    (cut : ofDocument tokenizer size overlap document = .ok chunks) : overlap < size := by
  by_contra larger
  rw [ofDocument_of_le (not_lt.mp larger)] at cut
  cases cut

theorem windowsOf_eq_nil_iff (smaller : overlap < size) :
    windowsOf tokenizer size overlap document = [] ↔ tokenizer.encode document.content = [] := by
  rw [windowsOf, List.map_eq_nil_iff, List.range_eq_nil, ← Nat.le_zero,
    ceilDiv_le_iff_le_mul (Nat.sub_pos_of_lt smaller), Nat.mul_zero, Nat.le_zero,
    List.length_eq_zero_iff]

theorem ofDocument_eq (smaller : overlap < size) (document : Document) :
    ofDocument tokenizer size overlap document =
      (textsOf tokenizer size overlap document).map
        (ofTexts document (windowsOf tokenizer size overlap document)) := by
  have planned : Window.plan (tokenizer.encode document.content).length size overlap =
      .ok (windowsOf tokenizer size overlap document) := Window.plan_eq smaller
  have gone := @windowsOf_eq_nil_iff tokenizer size overlap document smaller
  unfold ofDocument textsOf
  dsimp only
  rw [planned]
  generalize windowsOf tokenizer size overlap document = windows at gone ⊢
  by_cases none : tokenizer.encode document.content = []
  · rw [if_pos none, gone.mpr none]
    rfl
  · rw [if_neg none]
    cases windows with
    | nil => exact absurd (gone.mp rfl) none
    | cons window rest =>
        dsimp only [bind, Except.bind]
        rw [if_neg (by simp)]
        cases tokenizer.decode document.content _ <;> rfl

theorem textsOf_error_iff {failure : Failure} :
    textsOf tokenizer size overlap document = .error failure ↔
      Undecodable tokenizer size overlap document failure := by
  unfold textsOf Undecodable
  dsimp only
  split
  · next none => exact ⟨(nomatch ·), fun failed => absurd none failed.1⟩
  · next some => exact ⟨fun failed => ⟨some, failed⟩, fun failed => failed.2⟩

theorem ofDocument_error_iff (smaller : overlap < size) {failure : Failure} :
    ofDocument tokenizer size overlap document = .error failure ↔
      Undecodable tokenizer size overlap document failure := by
  rw [ofDocument_eq smaller, map_error_iff, textsOf_error_iff]

theorem exists_ofDocument_iff (smaller : overlap < size) :
    (∃ chunks, ofDocument tokenizer size overlap document = .ok chunks) ↔
      ∀ failure, ¬ Undecodable tokenizer size overlap document failure := by
  simp only [← ofDocument_error_iff smaller]
  cases ofDocument tokenizer size overlap document with
  | error failure =>
      constructor
      · rintro ⟨chunks, cut⟩
        cases cut
      · intro fine
        exact absurd rfl (fine failure)
  | ok chunks => exact ⟨fun _ _ => (nomatch ·), fun _ => ⟨chunks, rfl⟩⟩

theorem exists_ofDocument_of_decoded (smaller : overlap < size)
    (decodes : ∃ texts, tokenizer.decode document.content
      ((windowsOf tokenizer size overlap document).map fun window =>
        (window, window.slice (tokenizer.encode document.content))) = .ok texts) :
    ∃ chunks, ofDocument tokenizer size overlap document = .ok chunks := by
  refine (exists_ofDocument_iff smaller).mpr ?_
  rintro failure ⟨-, failed⟩
  obtain ⟨texts, decoded⟩ := decodes
  rw [decoded] at failed
  cases failed

theorem length_textsOf (smaller : overlap < size) {texts : List String}
    (faithful : ∀ windows texts, tokenizer.decode document.content windows = .ok texts →
      texts.length = windows.length)
    (decoded : textsOf tokenizer size overlap document = .ok texts) :
    texts.length = (windowsOf tokenizer size overlap document).length := by
  unfold textsOf at decoded
  dsimp only at decoded
  split at decoded
  · next none =>
    cases decoded
    rw [(windowsOf_eq_nil_iff smaller).mpr none]
    rfl
  · rw [faithful _ _ decoded, List.length_map]

section Several

variable {documents : List Document}

theorem tableOf_eq_map :
    tableOf tokenizer size overlap documents =
      (documents.mapM (ofDocument tokenizer size overlap)).map fun lists =>
        Table.ofList (lists.flatten.map fun chunk => (chunk.id.text, chunk)) := rfl

theorem tableOf_error_iff {failure : Failure} :
    tableOf tokenizer size overlap documents = .error failure ↔
      documents.mapM (ofDocument tokenizer size overlap) = .error failure := by
  rw [tableOf_eq_map, map_error_iff]

theorem tableOf_ok_iff {table : Table String Chunk} :
    tableOf tokenizer size overlap documents = .ok table ↔
      ∃ lists, documents.mapM (ofDocument tokenizer size overlap) = .ok lists ∧
        Table.ofList (lists.flatten.map fun chunk => (chunk.id.text, chunk)) = table := by
  rw [tableOf_eq_map, map_ok_iff]

end Several

end Chunk

end Retrieval
