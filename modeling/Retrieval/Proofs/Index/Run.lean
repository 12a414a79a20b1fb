import Retrieval.Index.Search
import Retrieval.Proofs.Index.Start
import Retrieval.Proofs.Index.Upsert

/-!
# Runs of an index

The operations that an index offers, and the indices that runs of them lead to.
Only an accepted batch changes an index (`perform_cases`): it keeps the options
and the embedder, and a dimension that is known already.
-/

namespace Retrieval

namespace Index

variable {σ : Type}

/-! ## The dimension of a batch -/

theorem sized_of_known {dimension after : Nat} {embeddings : List Embedding}
    (known : dimension ≠ 0) (done : sized dimension embeddings = .ok after) :
    after = dimension ∧ ∀ embedding ∈ embeddings, embedding.length = dimension := by
  induction embeddings with
  | nil =>
      cases done
      exact ⟨rfl, fun _ absent => absurd absent List.not_mem_nil⟩
  | cons first rest ih =>
      rw [sized, if_neg known] at done
      split at done
      · next same =>
        obtain ⟨kept, others⟩ := ih done
        refine ⟨kept, ?_⟩
        intro embedding member
        rcases List.mem_cons.mp member with rfl | later
        · exact same
        · exact others embedding later
      · cases done

/-- Whatever the dimension was, an embedding without numbers does not set it, and every other
one has the dimension in the end. -/
theorem length_of_sized {dimension after : Nat} {embeddings : List Embedding}
    (done : sized dimension embeddings = .ok after) :
    ∀ embedding ∈ embeddings, embedding = [] ∨ embedding.length = after := by
  induction embeddings generalizing dimension with
  | nil => exact fun _ absent => absurd absent List.not_mem_nil
  | cons first rest ih =>
      intro embedding member
      by_cases known : dimension = 0
      · rw [sized, if_pos known] at done
        rcases List.mem_cons.mp member with rfl | later
        · by_cases none : embedding.length = 0
          · exact .inl (List.length_eq_zero_iff.mp none)
          · exact .inr (sized_of_known none done).1.symm
        · exact ih done embedding later
      · obtain ⟨rfl, others⟩ := sized_of_known known done
        exact .inr (others embedding member)

theorem dimension_of_accept {index grown : Index σ} {batch : Table String Properties}
    {reply : List Embedding} (known : index.dimension ≠ 0)
    (accepted : index.accept batch reply = .ok grown) : grown.dimension = index.dimension := by
  obtain ⟨dimension, measured, rfl⟩ := accept_ok accepted
  exact (sized_of_known known measured).1

/-- What an accepted batch stores has the dimension of the index, or no numbers. -/
theorem length_of_storedTable {index grown : Index σ} {batch : Table String Properties}
    {reply : List Embedding} {id : String} {stored : StoredVector}
    (accepted : index.accept batch reply = .ok grown)
    (found : (index.storedTable batch reply).get? id = some stored) :
    stored.embedding = [] ∨ stored.embedding.length = grown.dimension := by
  obtain ⟨dimension, measured, rfl⟩ := accept_ok accepted
  obtain ⟨-, -, -, member⟩ := mem_storedBatch (Table.get?_eq_some_iff.mp found)
  exact length_of_sized measured _ member

/-! ## Operations -/

/-- What can be asked of an index. -/
inductive Operation where
  | upsert (batch : Table String Properties)
  | query (text : String) (limit : Nat)
  | save

/-- The index and the host after an operation, whether it succeeds or not. -/
def Operation.perform (index : Index σ) (host : Host σ) : Operation → Index σ × Host σ
  | .upsert batch => (index.upsert batch host).2
  | .query text limit =>
      (index, { host with outside := (index.query text limit host.outside).2 })
  | .save => (index, { host with files := (index.save host.files).2 })

theorem upsert_cases (index : Index σ) (batch : Table String Properties) (host : Host σ) :
    (index.upsert batch host).2.1 = index ∨
    ∃ reply, index.replyTo batch host = .ok reply ∧
      index.accept batch reply = .ok (index.upsert batch host).2.1 := by
  have ending := index.upserted batch host
  generalize (index.upsert batch host).1 = outcome, (index.upsert batch host).2.1 = after,
    (index.upsert batch host).2.2.files = files at ending ⊢
  cases ending with
  | nothing => exact .inl rfl
  | refused => exact .inl rfl
  | kept _ replied accepted => exact .inr ⟨_, replied, accepted⟩
  | saved _ replied accepted => exact .inr ⟨_, replied, accepted⟩

theorem perform_cases (index : Index σ) (host : Host σ) (operation : Operation) :
    (operation.perform index host).1 = index ∨
    ∃ batch reply, index.replyTo batch host = .ok reply ∧
      index.accept batch reply = .ok (operation.perform index host).1 := by
  cases operation with
  | query => exact .inl rfl
  | save => exact .inl rfl
  | upsert batch => exact (index.upsert_cases batch host).imp id fun taken => ⟨batch, taken⟩

/-- One index comes from another by any number of operations.  Each of them finds the host in
any state, so other users of the files and the embedder are covered. -/
inductive Leads (first : Index σ) : Index σ → Prop where
  | start : Leads first first
  | perform {index : Index σ} (before : Leads first index) (operation : Operation)
      (host : Host σ) : Leads first (operation.perform index host).1

namespace Leads

variable {first index : Index σ}

theorem options_eq (run : first.Leads index) : index.options = first.options := by
  induction run with
  | start => rfl
  | @perform index _ operation host ih =>
      rcases index.perform_cases host operation with same | ⟨batch, reply, -, accepted⟩
      · rw [same, ih]
      · rw [options_of_accept accepted, ih]

theorem embedder_eq (run : first.Leads index) : index.embedder = first.embedder := by
  induction run with
  | start => rfl
  | @perform index _ operation host ih =>
      rcases index.perform_cases host operation with same | ⟨batch, reply, -, accepted⟩
      · rw [same, ih]
      · rw [embedder_of_accept accepted, ih]

theorem dimension_eq (run : first.Leads index) (known : first.dimension ≠ 0) :
    index.dimension = first.dimension := by
  induction run with
  | start => rfl
  | @perform index _ operation host ih =>
      rcases index.perform_cases host operation with same | ⟨batch, reply, -, accepted⟩
      · rw [same, ih]
      · rw [← ih] at known
        rw [dimension_of_accept known accepted, ih]

end Leads

end Index

end Retrieval
