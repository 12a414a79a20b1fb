import Retrieval.Proofs.Calls
import Retrieval.Proofs.Index.Run
import Retrieval.Proofs.Table.Order
import Retrieval.Proofs.Table.Size

/-!
# Where the records of a batch go

A batch is embedded in one call, by ascending identifier, in whatever order its
records are visited.  Each record is stored with the vector at the place of its
identifier, or all of them with zeros if the answer has another count; no other
record changes, and the index grows by the identifiers that are new to it
(`Placed`).
-/

namespace Retrieval

namespace Index

variable {σ : Type}

/-- The text that a batch embeds for an identifier. -/
def contentOf (batch : Table String Properties) (id : String) : String :=
  ((batch.get? id).bind (·.get? contentField)).getD ""

/-- What an index holds after it took a batch, from the embedder's answer to the ids in order. -/
structure Placed (index after : Index σ) (batch : Table String Properties)
    (reply : List Embedding) (order : List String) : Prop where
  /-- An answer with one vector for each record has that of an identifier at its place. -/
  own : reply.length = batch.size → ∀ id record, batch.get? id = some record →
    ∃ stored, after.records.get? id = some stored ∧
      reply[order.idxOf id]? = some stored.embedding ∧
      ∀ field, stored.shown.get? field =
        if field ∈ index.options.shownFields then record.get? field else none
  /-- Any other answer stands for zeros. -/
  zeros : reply.length ≠ batch.size → ∃ length, ∀ id record, batch.get? id = some record →
    ∃ stored, after.records.get? id = some stored ∧
      stored.embedding = Embedding.zeros length ∧
      ∀ field, stored.shown.get? field =
        if field ∈ index.options.shownFields then record.get? field else none
  others : ∀ id, batch.contains id = false → after.records.get? id = index.records.get? id
  grown : after.records.size =
    index.records.size + (batch.keys.filter fun id => !index.records.contains id).length

/-! ## The texts of a batch -/

theorem contents_eq_map_keys (batch : Table String Properties) :
    contents batch = batch.keys.map (contentOf batch) := by
  rw [contents, Table.values, Table.keys, List.map_map, List.map_map]
  refine List.map_congr_left ?_
  intro entry inside
  have found : batch.get? entry.1 = some entry.2 := Table.get?_eq_some_iff.mpr inside
  simp only [Function.comp_apply, contentOf, found, Option.bind_some]

/-! ## The place of a record -/

section Accept

variable {index grown : Index σ} {batch : Table String Properties} {reply : List Embedding}

theorem get?_storedTable (index : Index σ) (reply : List Embedding) {id : String}
    {record : Properties} (given : batch.get? id = some record) :
    ∃ vector, (index.aligned batch.size reply)[batch.keys.idxOf id]? = some vector ∧
      (index.storedTable batch reply).get? id =
        some ⟨vector, shownOf index.options record⟩ := by
  obtain ⟨place, listed, same⟩ := List.getElem_of_mem (Table.get?_eq_some_iff.mp given)
  have known : place < batch.keys.length := by
    rw [Table.length_keys]
    exact listed
  have key : batch.keys[place] = id := by
    simp only [Table.keys, List.getElem_map, same]
  have placed : batch.keys.idxOf id = place := by
    rw [← key]
    exact batch.nodup_keys.idxOf_getElem place known
  have within : place < (index.aligned batch.size reply).length := by
    rw [length_aligned]
    exact listed
  refine ⟨(index.aligned batch.size reply)[place], ?_, ?_⟩
  · rw [placed, List.getElem?_eq_getElem within]
  · refine Table.get?_eq_some_iff.mpr (List.mem_map.mpr ?_)
    refine ⟨((id, record), (index.aligned batch.size reply)[place]), ?_, rfl⟩
    have zipped : place < (batch.entries.zip (index.aligned batch.size reply)).length := by
      rw [List.length_zip]
      exact Nat.lt_min.mpr ⟨listed, within⟩
    rw [← same, ← List.getElem_zip (h := zipped)]
    exact List.getElem_mem zipped

/-- As many vectors of one length as there are records are accepted, if the length fits. -/
theorem exists_sized_replicate {dimension : Nat} (vector : Embedding)
    (fits : dimension = 0 ∨ vector.length = dimension) (count : Nat) :
    ∃ after, sized dimension (List.replicate count vector) = .ok after := by
  induction count generalizing dimension with
  | zero => exact ⟨dimension, rfl⟩
  | succ count ih =>
      rw [List.replicate_succ, sized]
      by_cases unsized : dimension = 0
      · rw [if_pos unsized]
        exact ih (.inr rfl)
      · rw [if_neg unsized, if_pos (fits.resolve_left unsized)]
        exact ih fits

theorem exists_accept_of_miscounted (index : Index σ) (miscounted : reply.length ≠ batch.size) :
    ∃ grown, index.accept batch reply = .ok grown := by
  have fits : index.dimension = 0 ∨
      (Embedding.zeros index.fallbackDimension).length = index.dimension := by
    rw [Embedding.zeros, List.length_replicate, fallbackDimension]
    by_cases known : 0 < index.dimension
    · exact .inr (if_pos known)
    · exact .inl (Nat.eq_zero_of_not_pos known)
  obtain ⟨after, measured⟩ := exists_sized_replicate _ fits batch.size
  unfold accept aligned
  rw [if_neg miscounted]
  dsimp only
  rw [measured]
  exact ⟨_, rfl⟩

theorem placed_of_accept (accepted : index.accept batch reply = .ok grown) :
    index.Placed grown batch reply batch.keys := by
  have stored (id : String) (record : Properties) (given : batch.get? id = some record) :
      ∃ vector, (index.aligned batch.size reply)[batch.keys.idxOf id]? = some vector ∧
        grown.records.get? id = some ⟨vector, shownOf index.options record⟩ := by
    obtain ⟨vector, placed, found⟩ := index.get?_storedTable reply given
    refine ⟨vector, placed, ?_⟩
    rw [records_of_accept accepted, Table.get?_merge, found]
    rfl
  constructor
  case own =>
    intro same id record given
    obtain ⟨vector, placed, found⟩ := stored id record given
    rw [aligned_of_length same] at placed
    exact ⟨_, found, placed, get?_shownOf index.options record⟩
  case zeros =>
    intro miscounted
    refine ⟨index.fallbackDimension, ?_⟩
    intro id record given
    obtain ⟨vector, placed, found⟩ := stored id record given
    rw [aligned, if_neg miscounted] at placed
    have zero := List.eq_of_mem_replicate (List.mem_of_getElem? placed)
    exact ⟨_, found, zero, get?_shownOf index.options record⟩
  case others =>
    intro id absent
    have unstored : (index.storedTable batch reply).get? id = none := by
      rw [Table.get?_eq_none_iff, contains_storedTable]
      exact absent
    rw [records_of_accept accepted, Table.get?_merge, unstored, Option.none_or]
  case grown =>
    rw [records_of_accept accepted, Table.size_merge, keys_storedTable]

end Accept

/-! ## The whole upsert -/

/-- A batch that is not empty is taken, or it is refused with the error of the upsert. -/
theorem taken_or_refused (index : Index σ) {batch : Table String Properties}
    (filled : batch ≠ Table.empty) (host : Host σ) :
    (∃ reply, index.replyTo batch host = .ok reply ∧
      index.accept batch reply = .ok (index.upsert batch host).2.1) ∨
    ∃ failure, (index.upsert batch host).1 = .error failure ∧
      (index.upsert batch host).2.1 = index ∧
      (index.replyTo batch host).bind (index.accept batch) = .error failure := by
  have ending := index.upserted batch host
  generalize (index.upsert batch host).1 = outcome, (index.upsert batch host).2.1 = after,
    (index.upsert batch host).2.2.files = files at ending ⊢
  cases ending with
  | nothing empty => exact absurd empty filled
  | refused _ refusal => exact .inr ⟨_, rfl, rfl, refusal⟩
  | kept _ replied accepted => exact .inl ⟨_, replied, accepted⟩
  | saved _ replied accepted => exact .inl ⟨_, replied, accepted⟩

/-- A batch that is not empty is embedded with a single call, on the contents of its records by
ascending identifier, whatever order they are visited in.  If the upsert succeeds, or if the
answer has another count than the batch, the records of the batch are placed by that order.
However it ends, it does not touch any other record. -/
theorem upsert_places_batch {index : Index σ} {batch : Table String Properties}
    (filled : batch ≠ Table.empty) {visits : List String} (listed : visits.Perm batch.keys)
    (host : Host σ) :
    (∀ log, (index.recorded.upsert batch ⟨host.files, host.outside, log⟩).2.2.outside.2 =
      log ++ [.embedding ((visits.mergeSort (· ≤ ·)).map (contentOf batch))]) ∧
    ((index.upsert batch host).1 = .ok () → ∃ reply, index.replyTo batch host = .ok reply) ∧
    (∀ reply, index.replyTo batch host = .ok reply →
      (index.upsert batch host).1 = .ok () ∨ reply.length ≠ batch.size →
        index.Placed (index.upsert batch host).2.1 batch reply (visits.mergeSort (· ≤ ·))) ∧
    ∀ id, batch.contains id = false →
      (index.upsert batch host).2.1.records.get? id = index.records.get? id := by
  rw [Table.mergeSort_eq_keys listed]
  refine ⟨?_, ?_, ?_, ?_⟩
  · intro log
    have embedded : upsertCalls batch = [.embedding (batch.keys.map (contentOf batch))] := by
      rw [upsertCalls, if_neg fun empty => filled (batch.isEmpty_iff.mp empty),
        contents_eq_map_keys]
    rw [upsert_recorded, embedded]
  · intro succeeded
    rcases index.taken_or_refused filled host with ⟨reply, replied, -⟩ | ⟨failure, failed, -, -⟩
    · exact ⟨reply, replied⟩
    · rw [succeeded] at failed
      cases failed
  · intro reply replied placed
    rcases index.taken_or_refused filled host with
      ⟨other, answered, accepted⟩ | ⟨failure, failed, -, refusal⟩
    · obtain rfl := Except.ok.inj (replied.symm.trans answered)
      exact placed_of_accept accepted
    · rcases placed with succeeded | miscounted
      · rw [succeeded] at failed
        cases failed
      · obtain ⟨grown, accepted⟩ := index.exists_accept_of_miscounted miscounted
        rw [replied] at refusal
        cases accepted.symm.trans refusal
  · intro id absent
    rcases index.taken_or_refused filled host with ⟨reply, -, accepted⟩ | ⟨failure, -, same, -⟩
    · exact (placed_of_accept accepted).others id absent
    · rw [same]

/-! ## Two vectors for any batch -/

/-- An index over an embedder that answers every batch with the same two vectors; it shows one
field of its records, twice named. -/
def pairing : Index Unit :=
  fresh "chunks" { shownFields := ["kind", "kind"] }
    { Embedder.uniform [1.0] with embed := fun _ outside => (.ok [[1.0], [2.0]], outside) }

def twoRecords : Table String Properties :=
  Table.ofList [("a", Table.ofList [("content", "x")]), ("b", Table.ofList [("kind", "y")])]

def oneOfThem : Table String Properties := Table.ofList [("a", Table.ofList [("content", "x")])]

/-- Two records visited backwards are embedded forwards and have a vector each; for a single
record two vectors are one too many. -/
theorem upsert_places_batch_of_two :
    (pairing.recorded.upsert twoRecords ⟨FileStore.empty, (), []⟩).2.2.outside.2 =
      [.embedding ["x", ""]] ∧
    (∃ stored, (pairing.upsert twoRecords ⟨FileStore.empty, ()⟩).2.1.records.get? "b" =
        some stored ∧ stored.embedding = [2.0] ∧ stored.shown.get? "kind" = some "y") ∧
    ∃ length stored, (pairing.upsert oneOfThem ⟨FileStore.empty, ()⟩).2.1.records.get? "a" =
      some stored ∧ stored.embedding = Embedding.zeros length := by
  have listed : ["b", "a"].Perm twoRecords.keys := List.Perm.swap "a" "b" []
  have listedAlone : ["a"].Perm oneOfThem.keys := List.Perm.refl _
  have order : ["b", "a"].mergeSort (· ≤ ·) = ["a", "b"] := Table.mergeSort_eq_keys listed
  have filled : twoRecords ≠ Table.empty := by decide
  have filledAlone : oneOfThem ≠ Table.empty := by decide
  let host : Host Unit := ⟨FileStore.empty, ()⟩
  obtain ⟨calls, -, both, -⟩ := @upsert_places_batch _ pairing _ filled _ listed host
  obtain ⟨-, -, alone, -⟩ := @upsert_places_batch _ pairing _ filledAlone _ listedAlone host
  rw [order] at calls both
  refine ⟨calls [], ?_, ?_⟩
  · obtain ⟨stored, found, placed, shown⟩ :=
      (both [[1.0], [2.0]] rfl (.inl rfl)).own rfl "b" (Table.ofList [("kind", "y")]) rfl
    refine ⟨stored, found, (Option.some.inj placed).symm, ?_⟩
    rw [shown "kind"]
    rfl
  · obtain ⟨length, zeros⟩ := (alone [[1.0], [2.0]] rfl (.inr (by decide))).zeros (by decide)
    obtain ⟨stored, found, zero, -⟩ := zeros "a" (Table.ofList [("content", "x")]) rfl
    exact ⟨length, stored, found, zero⟩

end Index

end Retrieval
