import Retrieval.Proofs.Corpus.Answer
import Retrieval.Proofs.Index.Ranking

/-!
# Answers in any order of visits

A chunk index may visit its records in any order.  Where scores are numbers, the
order does not matter.  Elsewhere sorting may break off in one order and not in
another; where it does there is no answer.
-/

namespace Retrieval

/-- A query for the context of so many matches within so many tokens; all else is as given. -/
def QueryOptions.forContext (options : QueryOptions) (limit budget : Nat) : QueryOptions :=
  { options with mode := .naive, contextOnly := true, matchLimit := limit, contextBudget := budget }

theorem QueryOptions.forContext_self {options : QueryOptions} (mode : options.mode = .naive)
    (wanted : options.contextOnly = true) :
    options.forContext options.matchLimit options.contextBudget = options := by
  rw [forContext, ← mode, ← wanted]

namespace Corpus

variable {σ : Type}

/-- The list has the records of the chunk index, in some order. -/
def Lists (corpus : Corpus σ) (order : List (String × StoredVector)) : Prop :=
  ∀ index, corpus.chunkIndex = some index → order.Perm index.records.entries

/-- The response to a question, where the chunk index visits its records in a given order. -/
def answerThrough (corpus : Corpus σ) (order : List (String × StoredVector)) (question : String)
    (options : QueryOptions) (outside : σ) : Except Failure Response × σ :=
  match options.mode with
  | .naive =>
      match corpus.chunkIndex with
      | none => (.ok .noContext, outside)
      | some index =>
          match index.queryThrough order question options.matchLimit outside with
          | (.error failure, outside) => (.error failure, outside)
          | (.ok found, outside) =>
              let chunks := corpus.matchedChunks found
              if chunks.isEmpty then (.ok .noContext, outside)
              else
                corpus.respond question (assembleContext options.contextBudget chunks) options
                  outside
  | mode => (.ok (.unsupported mode), outside)

/-- The response to a question, where the chunk index visits its records in a given order, unless
its query breaks off. -/
def answerThrough? (corpus : Corpus σ) (order : List (String × StoredVector)) (question : String)
    (options : QueryOptions) (outside : σ) : Option (Except Failure Response × σ) :=
  if corpus.ends order question options outside then
    some (corpus.answerThrough order question options outside)
  else none

section Answer

variable {corpus : Corpus σ} {order : List (String × StoredVector)} {question : String}
  {options : QueryOptions} {limit budget : Nat} {outside : σ}

theorem lists_visits (corpus : Corpus σ) : corpus.Lists corpus.visits := by
  intro index indexed
  rw [visits, indexed]

theorem answer_eq_answerThrough :
    corpus.answer question options outside =
      corpus.answerThrough corpus.visits question options outside := by
  unfold answer answerNaive answerThrough visits
  cases corpus.chunkIndex <;> rfl

theorem answer?_eq_answerThrough? :
    corpus.answer? question options outside =
      corpus.answerThrough? corpus.visits question options outside := by
  rw [answer?, answerThrough?, answer_eq_answerThrough]

theorem answerThrough?_of_sortable
    (sortable : ∀ index embedding, corpus.chunkIndex = some index →
      (index.embedder.embed [question] outside).1.bind index.queryEmbedding = .ok embedding →
        index.Sortable embedding)
    (lists : corpus.Lists order) :
    corpus.answerThrough? order question options outside =
      some (corpus.answerThrough order question options outside) := by
  refine if_pos ?_
  unfold ends
  split
  · next index _ indexed =>
    exact Index.ends_of_sortable (fun embedding => sortable index embedding indexed)
      (lists index indexed)
  · rfl

/-- Where scores are numbers, an answer does not depend on the order of the visits. -/
theorem answerThrough_eq_answer
    (numeric : ∀ index embedding, corpus.chunkIndex = some index →
      (index.embedder.embed [question] outside).1.bind index.queryEmbedding = .ok embedding →
        index.Numeric embedding)
    (lists : corpus.Lists order) :
    corpus.answerThrough order question options outside =
      corpus.answer question options outside := by
  unfold answerThrough answer answerNaive
  cases options.mode with
  | localGraph => rfl
  | globalGraph => rfl
  | naive =>
      dsimp only
      cases present : corpus.chunkIndex with
      | none => rfl
      | some index =>
          have visits := Index.queryThrough_eq_query
            (fun embedding => numeric index embedding present) (lists index present)
            options.matchLimit
          dsimp only
          generalize index.queryThrough order question options.matchLimit outside = reply
            at visits ⊢
          subst visits
          rfl

theorem answerThrough?_eq_answer
    (numeric : ∀ index embedding, corpus.chunkIndex = some index →
      (index.embedder.embed [question] outside).1.bind index.queryEmbedding = .ok embedding →
        index.Numeric embedding)
    (lists : corpus.Lists order) :
    corpus.answerThrough? order question options outside =
      some (corpus.answer question options outside) := by
  rw [answerThrough?_of_sortable _ lists, answerThrough_eq_answer numeric lists]
  exact fun index embedding indexed answered => .inl (numeric index embedding indexed answered)

theorem answerThrough_of_no_chunks (none : corpus.chunks.records = Table.empty)
    (naive : options.mode = .naive)
    (answers : ∀ index, corpus.chunkIndex = some index → ∃ found,
      (index.queryThrough order question options.matchLimit outside).1 = .ok found) :
    (corpus.answerThrough order question options outside).1 = .ok .noContext := by
  unfold answerThrough
  rw [naive]
  dsimp only
  cases present : corpus.chunkIndex with
  | none => rfl
  | some index =>
      obtain ⟨found, answered⟩ := answers index present
      have missing : corpus.matchedChunks found = [] := by
        rw [matchedChunks_eq, retrieved]
        refine List.filterMap_eq_nil_iff.mpr fun found _ => ?_
        rw [Collection.get?, none]
        rfl
      dsimp only
      rw [← Prod.eta (index.queryThrough order question options.matchLimit outside), answered]
      dsimp only
      rw [missing]
      rfl

theorem answerThrough_context_iff {context : String} :
    (corpus.answerThrough order question (options.forContext limit budget) outside).1 =
        .ok (.context context) ↔
      ∃ index found, corpus.chunkIndex = some index ∧
        (index.queryThrough order question limit outside).1 = .ok found ∧
        corpus.retrieved found ≠ [] ∧
        assembleContext budget (corpus.retrieved found) = context := by
  have responds (context : String) (later : σ) :
      corpus.respond question context (options.forContext limit budget) later =
        (.ok (.context context), later) := respond_of_context_wanted (.inl rfl)
  unfold answerThrough
  unfold QueryOptions.forContext at responds ⊢
  dsimp only
  cases indexed : corpus.chunkIndex with
  | none => simp
  | some index =>
      dsimp only
      cases asked : index.queryThrough order question limit outside with
      | mk verdict later =>
          cases verdict with
          | error failure => simp [asked]
          | ok found => by_cases none : corpus.retrieved found = [] <;>
              simp [matchedChunks_eq, none, asked, responds]

end Answer

end Corpus

end Retrieval
