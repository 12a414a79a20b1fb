import Retrieval.Generator
import Retrieval.Index.Search
import Retrieval.Index.Upsert

/-!
# Calls to the providers

A recorded provider does what the provider does and writes each request down
behind those before it.  Where something runs over recorded providers, its
calls are what was written down.
-/

namespace Retrieval

/-- A request to an embedder or to a generator. -/
inductive Call where
  | embedding (texts : List String)
  | generation (question instructions : String)
  deriving DecidableEq

variable {σ : Type}

def Embedder.recorded (embedder : Embedder σ) : Embedder (σ × List Call) where
  model := embedder.model
  dimension := embedder.dimension
  tokenLimit := embedder.tokenLimit
  embed := fun texts outside =>
    ((embedder.embed texts outside.1).1,
      (embedder.embed texts outside.1).2, outside.2 ++ [.embedding texts])

def Generator.recorded (generator : Generator σ) : Generator (σ × List Call) where
  model := generator.model
  generate := fun question instructions outside =>
    ((generator.generate question instructions outside.1).1,
      (generator.generate question instructions outside.1).2,
      outside.2 ++ [.generation question instructions])

namespace Index

def recorded (index : Index σ) : Index (σ × List Call) where
  name := index.name
  options := index.options
  embedder := index.embedder.recorded
  dimension := index.dimension
  records := index.records

/-- An index with something to find embeds the query text, once. -/
def queryCalls (index : Index σ) (text : String) : List Call :=
  if index.dimension = 0 ∨ index.records.isEmpty then [] else [.embedding [text]]

theorem query_recorded (index : Index σ) (text : String) (limit : Nat) (outside : σ)
    (log : List Call) :
    index.recorded.query text limit (outside, log) =
      ((index.query text limit outside).1, (index.query text limit outside).2,
        log ++ index.queryCalls text) := by
  unfold query queryCalls
  by_cases absent : index.dimension = 0 ∨ index.records.isEmpty
  · rw [if_pos absent, if_pos absent, List.append_nil]
    exact if_pos absent
  · rw [if_neg absent, if_neg absent]
    exact if_neg absent

/-- A batch with records embeds their contents, in one call. -/
def upsertCalls (batch : Table String Properties) : List Call :=
  if batch.isEmpty then [] else [.embedding (contents batch)]

theorem accept_recorded (index : Index σ) (batch : Table String Properties)
    (reply : List Embedding) :
    index.recorded.accept batch reply = (index.accept batch reply).map recorded := by
  unfold accept
  dsimp only
  change (sized index.dimension (index.aligned batch.size reply)).bind _ =
    ((sized index.dimension (index.aligned batch.size reply)).bind _).map recorded
  cases sized index.dimension (index.aligned batch.size reply) <;> rfl

theorem upsert_recorded (index : Index σ) (batch : Table String Properties) (files : FileStore)
    (outside : σ) (log : List Call) :
    index.recorded.upsert batch ⟨files, outside, log⟩ =
      ((index.upsert batch ⟨files, outside⟩).1,
        (index.upsert batch ⟨files, outside⟩).2.1.recorded,
        ⟨(index.upsert batch ⟨files, outside⟩).2.2.files,
          (index.upsert batch ⟨files, outside⟩).2.2.outside, log ++ upsertCalls batch⟩) := by
  unfold upsert upsertCalls
  by_cases empty : batch.isEmpty = true
  · rw [if_pos empty, if_pos empty, if_pos empty, List.append_nil]
  · rw [if_neg empty, if_neg empty, if_neg empty]
    cases answered : index.embedder.embed (contents batch) outside with
    | mk answer later =>
        have embedded : index.recorded.embedder.embed (contents batch) (outside, log) =
            (answer, later, log ++ [.embedding (contents batch)]) := by
          simp only [recorded, Embedder.recorded, answered]
        rw [embedded]
        dsimp only
        cases answer with
        | error failure => rfl
        | ok reply =>
            simp only [Except.bind, accept_recorded]
            cases index.accept batch reply with
            | error failure => rfl
            | ok grown =>
                have options : grown.recorded.options = grown.options := rfl
                simp only [Except.map, options]
                cases grown.options.autoSave <;> rfl

end Index

end Retrieval
