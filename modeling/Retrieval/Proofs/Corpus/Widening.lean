import Retrieval.Proofs.Corpus.Run
import Retrieval.Proofs.Corpus.Visits
import Retrieval.Proofs.Index.Settled

/-!
# Wider queries

A query that may have more matches and more tokens than another one takes up where
that one stops.  Each stage keeps a prefix a prefix: the front of the ranked list,
its chunk records, the chunks that the budget pays for, and their contents joined.
-/

namespace Retrieval

namespace Index

variable {σ : Type}

theorem ranked_isPrefix (options : IndexOptions) (query : Embedding) {limit wider : Nat}
    (limits : limit ≤ wider) (records : List (String × StoredVector)) :
    ranked options query limit records <+: ranked options query wider records := by
  rw [ranked, ranked]
  exact List.take_prefix_take_left limits

/-- Over an embedder whose answer depends on the text alone, a query with a higher limit is
answered as well, and goes on from the matches of the one with the lower limit. -/
theorem queryThrough_isPrefix {index : Index σ}
    {answer : List String → Except Failure (List Embedding)}
    (settled : index.embedder.Settled answer)
    {limit wider : Nat} (limits : limit ≤ wider) {order : List (String × StoredVector)}
    {text : String} {outside : σ} {found : List Match}
    (answered : (index.queryThrough order text limit outside).1 = .ok found) (later : σ) :
    ∃ more, (index.queryThrough order text wider later).1 = .ok more ∧ found <+: more := by
  rw [queryThrough_fst, settled] at answered ⊢
  split at answered
  · next absent =>
    cases answered
    rw [if_pos absent]
    exact ⟨[], rfl, List.prefix_rfl⟩
  · next asked =>
    rw [if_neg asked]
    cases embedded : (answer [text]).bind index.queryEmbedding with
    | error failure =>
        rw [embedded] at answered
        cases answered
    | ok embedding =>
        rw [embedded] at answered
        cases answered
        exact ⟨_, rfl, ranked_isPrefix index.options embedding limits order⟩

end Index

namespace Corpus

variable {σ : Type}

/-! ## Prefixes -/

theorem retrieved_isPrefix (corpus : Corpus σ) {found more : List Match} (begins : found <+: more) :
    corpus.retrieved found <+: corpus.retrieved more := by
  obtain ⟨rest, rfl⟩ := begins
  rw [retrieved, retrieved, List.filterMap_append]
  exact List.prefix_append _ _

/-- What a budget pays for of some chunks, a larger one pays for as well, of more chunks. -/
theorem affordable_isPrefix {budget larger : Nat} (budgets : budget ≤ larger)
    {chunks more : List Chunk} (begins : chunks <+: more) :
    affordable budget chunks <+: affordable larger more := by
  have narrow := longestWithin_affordable budget chunks
  exact (longestWithin_affordable larger more).longest _ (narrow.begins.trans begins)
    (narrow.paid.trans budgets)

theorem exists_intercalate_append (separator : String) {contents more : List String}
    (begins : contents <+: more) :
    ∃ rest, separator.intercalate more = separator.intercalate contents ++ rest := by
  obtain ⟨others, rfl⟩ := begins
  by_cases none : contents = []
  · rw [none, String.intercalate_nil]
    exact ⟨_, String.empty_append.symm⟩
  · by_cases all : others = []
    · rw [all, List.append_nil]
      exact ⟨"", String.append_empty.symm⟩
    · rw [String.intercalate_append_of_ne_nil none all, String.append_assoc]
      exact ⟨_, rfl⟩

/-- The context of more chunks within a larger budget begins with that of the fewer ones. -/
theorem exists_assembleContext_append {budget larger : Nat} (budgets : budget ≤ larger)
    {chunks more : List Chunk} (begins : chunks <+: more) :
    ∃ rest, assembleContext larger more = assembleContext budget chunks ++ rest := by
  rw [assembleContext_eq, assembleContext_eq]
  exact exists_intercalate_append _ ((affordable_isPrefix budgets begins).map Chunk.content)

/-! ## Contexts -/

/-- Over an embedder whose answer depends on the texts alone, and with the records visited in one
order, a query with a higher limit and a larger budget gives a context that begins with the one
that the lower limit and the smaller budget give. -/
theorem wider_query_extends_context {corpus : Corpus σ}
    {answer : List String → Except Failure (List Embedding)}
    (settled : ∀ index, corpus.chunkIndex = some index → index.embedder.Settled answer)
    {limit wider budget larger : Nat} (limits : limit ≤ wider) (budgets : budget ≤ larger)
    (options others : QueryOptions) {order : List (String × StoredVector)} {question : String}
    {outside : σ} {context : String}
    (answered : (corpus.answerThrough order question (options.forContext limit budget) outside).1 =
      .ok (.context context)) (later : σ) :
    ∃ rest, (corpus.answerThrough order question (others.forContext wider larger) later).1 =
      .ok (.context (context ++ rest)) := by
  obtain ⟨index, found, indexed, matched, given, rfl⟩ := answerThrough_context_iff.mp answered
  obtain ⟨more, matchedMore, begins⟩ :=
    Index.queryThrough_isPrefix (settled index indexed) limits matched later
  have chunks := corpus.retrieved_isPrefix begins
  have givenMore : corpus.retrieved more ≠ [] := by
    intro none
    rw [none] at chunks
    exact given (List.prefix_nil.mp chunks)
  obtain ⟨rest, extended⟩ := exists_assembleContext_append budgets chunks
  exact ⟨rest, answerThrough_context_iff.mpr
    ⟨index, more, indexed, matchedMore, givenMore, extended⟩⟩

/-! ## Three matches of two chunks -/

/-- An index of three records that match alike. -/
def threeAlike : Index Unit where
  name := chunkIndexName
  options := { threshold := 0.0 }
  embedder := .uniform [1.0]
  dimension := 1
  records := Table.ofList
    [("a", ⟨[1.0], Table.empty⟩), ("b", ⟨[1.0], Table.empty⟩), ("c", ⟨[1.0], Table.empty⟩)]

/-- A corpus that has no chunk for the second record of its index. -/
def twoChunks : Corpus Unit :=
  { sample {} with
    chunks := (Collection.empty "text_chunks").upsert (Table.ofList
      [("a", ⟨1, "x", ⟨"document"⟩, 0⟩), ("c", ⟨2, "y", ⟨"document"⟩, 1⟩)])
    chunkIndex := some threeAlike }

/-- One match gives the content of its chunk, and what all three give begins with it. -/
theorem wider_query_extends_context_of_two_chunks :
    (twoChunks.answer "q" (QueryOptions.forContext {} 1 2) ()).1 = .ok (.context "x") ∧
    ∃ rest, (twoChunks.answer "q" (QueryOptions.forContext {} 3 3) ()).1 =
      .ok (.context ("x" ++ rest)) := by
  have indexed : twoChunks.chunkIndex = some threeAlike := rfl
  have alike : Index.candidates threeAlike.options [1.0] threeAlike.records.entries =
      [⟨"a", 1.0, Table.empty⟩, ⟨"b", 1.0, Table.empty⟩, ⟨"c", 1.0, Table.empty⟩] := by
    decide +kernel
  have matched : (threeAlike.queryThrough threeAlike.records.entries "q" 1 ()).1 =
      .ok [⟨"a", 1.0, Table.empty⟩] := by
    rw [Index.queryThrough_fst, if_neg (by decide)]
    change Except.ok (Index.ranked threeAlike.options [1.0] 1 threeAlike.records.entries) = _
    rw [Index.ranked, alike]
    decide +kernel
  have answered : (twoChunks.answerThrough threeAlike.records.entries "q"
      (QueryOptions.forContext {} 1 2) ()).1 = .ok (.context "x") :=
    answerThrough_context_iff.mpr ⟨threeAlike, _, indexed, matched, by decide, by decide⟩
  have settled : ∀ index, twoChunks.chunkIndex = some index →
      index.embedder.Settled fun texts => .ok (texts.map fun _ => [1.0]) := by
    intro index present
    obtain rfl := Option.some.inj (indexed.symm.trans present)
    exact fun _ _ => rfl
  rw [answer_eq_answerThrough, answer_eq_answerThrough]
  exact ⟨answered, wider_query_extends_context settled (by decide) (by decide) {} {} answered ()⟩

end Corpus

end Retrieval
