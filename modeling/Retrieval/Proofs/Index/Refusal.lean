import Retrieval.Proofs.Index.Batch
import Retrieval.Proofs.Index.Dimension

/-!
# Batches that are refused

The vectors of a batch are scanned by ascending identifier.  A dimension that is
known is in force throughout, and an unknown one is given by the first vector with
numbers in it.  The first vector of another length ends the scan, and with it the
upsert (`Refuses`): the index and the files are as before, and an index without a
dimension stays without one.
-/

namespace Retrieval

namespace Index

variable {σ : Type}

/-! ## The scan -/

/-- The dimension in force behind some vectors: that of the index, or while it is zero the first
length that is not. -/
def inForce (dimension : Nat) (scanned : List Embedding) : Nat :=
  ((dimension :: scanned.map List.length).find? (· ≠ 0)).getD 0

/-- The vector at a place has another length than the dimension in force there. -/
structure Clashes (dimension : Nat) (vectors : List Embedding) (place : Nat)
    (vector : Embedding) : Prop where
  stands : vectors[place]? = some vector
  known : inForce dimension (vectors.take place) ≠ 0
  differs : vector.length ≠ inForce dimension (vectors.take place)

/-- The vector at a place is the first of those that clash. -/
structure ClashesFirst (dimension : Nat) (vectors : List Embedding) (place : Nat)
    (vector : Embedding) : Prop where
  clashes : Clashes dimension vectors place vector
  first : ∀ earlier < place, ∀ other, ¬ Clashes dimension vectors earlier other

section Scan

variable {dimension place : Nat} {head vector : Embedding} {rest vectors : List Embedding}

theorem inForce_cons (dimension : Nat) (head : Embedding) (rest : List Embedding) :
    inForce dimension (head :: rest) =
      inForce (if dimension = 0 then head.length else dimension) rest := by
  by_cases unsized : dimension = 0 <;> simp [inForce, unsized]

theorem inForce_nil (dimension : Nat) : inForce dimension [] = dimension := by
  by_cases unsized : dimension = 0 <;> simp [inForce, unsized]

theorem clashes_zero_iff :
    Clashes dimension (head :: rest) 0 vector ↔
      vector = head ∧ dimension ≠ 0 ∧ head.length ≠ dimension := by
  constructor
  · rintro ⟨stands, known, differs⟩
    rw [List.take_zero, inForce_nil] at known differs
    cases stands
    exact ⟨rfl, known, differs⟩
  · rintro ⟨rfl, known, differs⟩
    refine ⟨rfl, ?_, ?_⟩
    · rwa [List.take_zero, inForce_nil]
    · rwa [List.take_zero, inForce_nil]

/-- Behind the first vector the scan goes on with the dimension that it may have given. -/
theorem clashes_succ_iff :
    Clashes dimension (head :: rest) (place + 1) vector ↔
      Clashes (if dimension = 0 then head.length else dimension) rest place vector := by
  constructor
  · rintro ⟨stands, known, differs⟩
    rw [List.take_succ_cons, inForce_cons] at known differs
    exact ⟨stands, known, differs⟩
  · rintro ⟨stands, known, differs⟩
    rw [← inForce_cons, ← List.take_succ_cons] at known differs
    exact ⟨stands, known, differs⟩

theorem ClashesFirst.place_eq {other : Nat} {misfit : Embedding}
    (first : ClashesFirst dimension vectors place vector)
    (second : ClashesFirst dimension vectors other misfit) : place = other := by
  rcases Nat.lt_trichotomy place other with before | same | behind
  · exact absurd first.clashes (second.first place before vector)
  · exact same
  · exact absurd second.clashes (first.first other behind misfit)

theorem clashesFirst_succ_iff (fits : ∀ other, ¬ Clashes dimension (head :: rest) 0 other) :
    ClashesFirst dimension (head :: rest) (place + 1) vector ↔
      ClashesFirst (if dimension = 0 then head.length else dimension) rest place vector := by
  constructor
  · rintro ⟨clashes, first⟩
    refine ⟨clashes_succ_iff.mp clashes, ?_⟩
    intro earlier before other clash
    exact first (earlier + 1) (Nat.succ_lt_succ before) other (clashes_succ_iff.mpr clash)
  · rintro ⟨clashes, first⟩
    refine ⟨clashes_succ_iff.mpr clashes, ?_⟩
    intro earlier before other clash
    cases earlier with
    | zero => exact fits other clash
    | succ earlier =>
        exact first earlier (Nat.lt_of_succ_lt_succ before) other (clashes_succ_iff.mp clash)

theorem sized_error_iff {failure : Failure} :
    sized dimension vectors = .error failure ↔
      ∃ place vector, ClashesFirst dimension vectors place vector ∧
        failure = .dimensionMismatch (inForce dimension (vectors.take place)) vector.length := by
  induction vectors generalizing dimension with
  | nil =>
      constructor
      · intro refused
        cases refused
      · rintro ⟨place, vector, ⟨⟨stands, -, -⟩, -⟩, -⟩
        cases stands
  | cons head rest ih =>
      by_cases clash : dimension ≠ 0 ∧ head.length ≠ dimension
      · have clashing : ClashesFirst dimension (head :: rest) 0 head :=
          ⟨clashes_zero_iff.mpr ⟨rfl, clash⟩,
            fun earlier before => absurd before (Nat.not_lt_zero _)⟩
        rw [sized, if_neg clash.1, if_neg clash.2]
        constructor
        · intro refused
          cases refused
          refine ⟨0, head, clashing, ?_⟩
          rw [List.take_zero, inForce_nil]
        · rintro ⟨place, vector, first, rfl⟩
          obtain rfl := first.place_eq clashing
          obtain ⟨rfl, -⟩ := clashes_zero_iff.mp first.clashes
          rw [List.take_zero, inForce_nil]
      · have fits (other : Embedding) : ¬ Clashes dimension (head :: rest) 0 other :=
          fun clashes => clash (clashes_zero_iff.mp clashes).2
        have onward : sized dimension (head :: rest) =
            sized (if dimension = 0 then head.length else dimension) rest := by
          rw [sized]
          split
          · rfl
          · next known =>
            rw [if_pos (Classical.byContradiction fun differs => clash ⟨known, differs⟩)]
        rw [onward, ih]
        constructor
        · rintro ⟨place, vector, first, rfl⟩
          refine ⟨place + 1, vector, (clashesFirst_succ_iff fits).mpr first, ?_⟩
          rw [List.take_succ_cons, inForce_cons]
        · rintro ⟨place, vector, first, rfl⟩
          cases place with
          | zero => exact absurd first.clashes (fits vector)
          | succ place =>
              refine ⟨place, vector, (clashesFirst_succ_iff fits).mp first, ?_⟩
              rw [List.take_succ_cons, inForce_cons]

end Scan

/-! ## The upsert -/

/-- The embedder fails on the texts of a batch, by ascending identifier; or it answers with one
vector for each of them, and one of these is the first that clashes.  An empty batch is not
embedded, so it is never refused. -/
inductive Refuses (index : Index σ) (batch : Table String Properties) (host : Host σ) :
    Failure → Prop where
  | failed {failure : Failure} (filled : batch ≠ Table.empty)
      (answered : (index.embedder.embed (batch.keys.map (contentOf batch)) host.outside).1 =
        .error failure) :
      Refuses index batch host failure
  | clashed {vectors : List Embedding} {place : Nat} {vector : Embedding}
      (answered : (index.embedder.embed (batch.keys.map (contentOf batch)) host.outside).1 =
        .ok vectors)
      (whole : vectors.length = batch.size)
      (first : ClashesFirst index.dimension vectors place vector) :
      Refuses index batch host
        (.dimensionMismatch (inForce index.dimension (vectors.take place)) vector.length)

section Upsert

variable {index : Index σ} {batch : Table String Properties} {host : Host σ} {failure : Failure}

theorem accept_error_iff {reply : List Embedding} :
    index.accept batch reply = .error failure ↔
      reply.length = batch.size ∧ ∃ place vector, ClashesFirst index.dimension reply place vector ∧
        failure =
          .dimensionMismatch (inForce index.dimension (reply.take place)) vector.length := by
  by_cases whole : reply.length = batch.size
  · rw [← sized_error_iff, accept, aligned_of_length whole]
    cases sized index.dimension reply with
    | error other =>
        constructor
        · intro refused
          cases refused
          exact ⟨whole, rfl⟩
        · rintro ⟨-, refused⟩
          cases refused
          rfl
    | ok dimension =>
        constructor
        · intro refused
          cases refused
        · rintro ⟨-, refused⟩
          cases refused
  · obtain ⟨grown, accepted⟩ := index.exists_accept_of_miscounted whole
    rw [accepted]
    constructor
    · intro refused
      cases refused
    · rintro ⟨same, -⟩
      exact absurd same whole

/-- The batches that are refused are those whose answer is an error or is not accepted. -/
theorem refuses_iff :
    index.Refuses batch host failure ↔ batch ≠ Table.empty ∧
      (index.replyTo batch host).bind (index.accept batch) = .error failure := by
  rw [replyTo, contents_eq_map_keys]
  constructor
  · intro refused
    cases refused with
    | failed filled answered =>
        rw [answered]
        exact ⟨filled, rfl⟩
    | @clashed vectors place vector answered whole first =>
        refine ⟨?_, ?_⟩
        · rintro rfl
          have stands := first.clashes.stands
          rw [List.eq_nil_of_length_eq_zero whole] at stands
          cases stands
        · rw [answered]
          exact accept_error_iff.mpr ⟨whole, place, vector, first, rfl⟩
  · rintro ⟨filled, refusal⟩
    cases answered : (index.embedder.embed (batch.keys.map (contentOf batch)) host.outside).1 with
    | error other =>
        rw [answered] at refusal
        cases refusal
        exact .failed filled answered
    | ok vectors =>
        rw [answered] at refusal
        obtain ⟨whole, place, vector, first, rfl⟩ := accept_error_iff.mp refusal
        exact .clashed answered whole first

theorem upsert_of_refusal (filled : batch ≠ Table.empty)
    (refusal : (index.replyTo batch host).bind (index.accept batch) = .error failure) :
    index.upsert batch host = (.error failure, index,
      { host with outside := (index.embedder.embed (contents batch) host.outside).2 }) := by
  have unread : ¬ batch.isEmpty = true := fun empty => filled (batch.isEmpty_iff.mp empty)
  rw [replyTo] at refusal
  rw [upsert, if_neg unread]
  dsimp only
  rw [refusal]

/-- An upsert that fails was refused, or the index took the batch and could not save itself. -/
theorem refuses_or_unsaved {after : Index σ} {files : FileStore} {outcome : Except Failure Unit}
    (ending : index.Upserted batch host outcome after files) (failed : outcome = .error failure) :
    index.Refuses batch host failure ∨
      ∃ reply, index.replyTo batch host = .ok reply ∧ index.accept batch reply = .ok after ∧
        index.options.autoSave = true ∧ (after.save host.files).1 = .error failure := by
  cases ending with
  | nothing => cases failed
  | refused filled refusal =>
      cases failed
      exact .inl (refuses_iff.mpr ⟨filled, refusal⟩)
  | kept => cases failed
  | saved _ replied accepted saves => exact .inr ⟨_, replied, accepted, saves, failed⟩

/-- An upsert that is refused ends with that failure and leaves the index and the files as they
were.  An upsert fails in one other way only: it took the batch, and the snapshot that it writes
by itself cannot be written. -/
theorem refused_batch_changes_nothing (index : Index σ) (batch : Table String Properties)
    (host : Host σ) :
    (∀ failure, index.Refuses batch host failure →
      index.upsert batch host = (.error failure, index,
        { host with
          outside := (index.embedder.embed (batch.keys.map (contentOf batch)) host.outside).2 })) ∧
    ∀ failure, (index.upsert batch host).1 = .error failure → index.Refuses batch host failure ∨
      ∃ reply grown, index.replyTo batch host = .ok reply ∧ index.accept batch reply = .ok grown ∧
        index.options.autoSave = true ∧ (grown.save host.files).1 = .error failure := by
  constructor
  · intro failure refused
    obtain ⟨filled, refusal⟩ := refuses_iff.mp refused
    rw [← contents_eq_map_keys]
    exact upsert_of_refusal filled refusal
  · intro failure failed
    rcases refuses_or_unsaved (index.upserted batch host) failed with refused | ⟨reply, unsaved⟩
    · exact .inl refused
    · exact .inr ⟨reply, _, unsaved⟩

end Upsert

/-! ## A batch of three lengths -/

/-- Three records whose texts have no byte, one and two bytes. -/
def threeLengths : Table String Properties :=
  Table.ofList [("a", Table.empty), ("b", Table.ofList [("content", "x")]),
    ("c", Table.ofList [("content", "yy")])]

/-- An index that keeps a snapshot and writes it by itself, over the embedder whose embeddings are
as long as the texts. -/
def savingBytewise : Index Unit := fresh "chunks" { backend := .file, autoSave := true } .bytewise

/-- The second vector gives the dimension and the third one clashes with it, so the index stays
without a dimension and nothing is written. -/
theorem refused_batch_changes_nothing_of_three_lengths :
    savingBytewise.dimension = 0 ∧
    savingBytewise.Refuses threeLengths bareHost (.dimensionMismatch 1 2) ∧
    savingBytewise.upsert threeLengths bareHost =
      (.error (.dimensionMismatch 1 2), savingBytewise, bareHost) := by
  have clashes : Clashes 0 [[], [1.0], [1.0, 1.0]] 2 [1.0, 1.0] :=
    ⟨rfl, by decide, by decide⟩
  have first : ClashesFirst 0 [[], [1.0], [1.0, 1.0]] 2 [1.0, 1.0] := by
    refine ⟨clashes, ?_⟩
    rintro earlier before other ⟨stands, known, differs⟩
    obtain rfl | rfl : earlier = 0 ∨ earlier = 1 := by omega
    · exact known rfl
    · exact known rfl
  have refused : savingBytewise.Refuses threeLengths bareHost (.dimensionMismatch 1 2) :=
    @Refuses.clashed _ savingBytewise threeLengths bareHost _ 2 _ rfl rfl first
  exact ⟨rfl, refused, (refused_batch_changes_nothing savingBytewise threeLengths bareHost).1 _
    refused⟩

end Index

end Retrieval
