import Retrieval.Proofs.FileStore.Ready
import Retrieval.Proofs.Index.Run

/-!
# Upserts over an embedder that answers alike

Where the answer of the embedder depends on the texts alone and the dimension is
known, what an index stores of a batch depends on neither the host nor the
records that are there (`Stores`).  So an upsert that succeeds adds these vectors,
and any other one with the same batch succeeds as well and adds the same, if the
index can write its file where it has to.
-/

namespace Retrieval

namespace Embedder

variable {σ : Type}

/-- The answer to some texts depends on nothing else. -/
def Settled (embedder : Embedder σ)
    (answer : List String → Except Failure (List Embedding)) : Prop :=
  ∀ texts outside, (embedder.embed texts outside).1 = answer texts

/-- The embedder tells a dimension, and gives every text an embedding of its own that has it. -/
structure Maps (embedder : Embedder σ) (embeddingOf : String → Embedding) : Prop where
  known : 0 < embedder.dimension
  settled : embedder.Settled fun texts => .ok (texts.map embeddingOf)
  length : ∀ text, (embeddingOf text).length = embedder.dimension

theorem uniform_maps {embedding : Embedding} (given : embedding ≠ []) :
    (Embedder.uniform embedding).Maps fun _ => embedding where
  known := List.length_pos_iff.mpr given
  settled := fun _ _ => rfl
  length := fun _ => rfl

end Embedder

namespace Index

variable {σ : Type}

/-- The index with more records, the newer ones preferred. -/
def adding (index : Index σ) (vectors : Table String StoredVector) : Index σ :=
  { index with records := index.records.merge vectors }

@[simp] theorem options_adding (index : Index σ) (vectors : Table String StoredVector) :
    (index.adding vectors).options = index.options := rfl

theorem adding_adding (index : Index σ) (first second : Table String StoredVector) :
    (index.adding first).adding second = index.adding (first.merge second) := by
  rw [adding, adding, adding, Table.merge_assoc]

theorem sized_of_lengths {dimension : Nat} {embeddings : List Embedding} (known : dimension ≠ 0)
    (fits : ∀ embedding ∈ embeddings, embedding.length = dimension) :
    sized dimension embeddings = .ok dimension := by
  induction embeddings with
  | nil => rfl
  | cons first rest ih =>
      obtain ⟨same, others⟩ := List.forall_mem_cons.mp fits
      rw [sized, if_neg known, if_pos same]
      exact ih others

/-- With a known dimension a batch is accepted if its embeddings have it, and it is added. -/
theorem accept_of_known {index grown : Index σ} (known : index.dimension ≠ 0)
    (batch : Table String Properties) (reply : List Embedding) :
    index.accept batch reply = .ok grown ↔
      (∀ embedding ∈ index.aligned batch.size reply, embedding.length = index.dimension) ∧
        grown = index.adding (index.storedTable batch reply) := by
  constructor
  · intro accepted
    have records := records_of_accept accepted
    obtain ⟨dimension, measured, rfl⟩ := accept_ok accepted
    obtain ⟨rfl, fits⟩ := sized_of_known known measured
    refine ⟨fits, ?_⟩
    rw [adding, ← records]
  · rintro ⟨fits, rfl⟩
    have measured := sized_of_lengths known fits
    obtain ⟨grown, accepted⟩ : ∃ grown, index.accept batch reply = .ok grown := by
      unfold accept
      dsimp only
      rw [measured]
      exact ⟨_, rfl⟩
    have records := records_of_accept accepted
    rw [accepted]
    obtain ⟨dimension, remeasured, rfl⟩ := accept_ok accepted
    obtain rfl := Except.ok.inj (measured.symm.trans remeasured)
    rw [adding, ← records]

/-- What an index stores of a batch over an embedder with given answers. -/
inductive Stores (index : Index σ) (answer : List String → Except Failure (List Embedding))
    (batch : Table String Properties) : Table String StoredVector → Prop where
  | nothing (empty : batch = Table.empty) : Stores index answer batch Table.empty
  | embedded {reply : List Embedding} (filled : batch ≠ Table.empty)
      (replied : answer (contents batch) = .ok reply)
      (fits : ∀ embedding ∈ index.aligned batch.size reply, embedding.length = index.dimension) :
      Stores index answer batch (index.storedTable batch reply)

section Stores

variable {index : Index σ} {answer : List String → Except Failure (List Embedding)}
  {batch : Table String Properties} {vectors : Table String StoredVector}

theorem stores_adding_iff (more : Table String StoredVector) :
    (index.adding more).Stores answer batch vectors ↔ index.Stores answer batch vectors := by
  constructor
  · intro stores
    cases stores with
    | nothing empty => exact .nothing empty
    | embedded filled replied fits => exact .embedded filled replied fits
  · intro stores
    cases stores with
    | nothing empty => exact .nothing empty
    | embedded filled replied fits => exact .embedded filled replied fits

theorem stores_of_maps {embeddingOf : String → Embedding} (maps : index.embedder.Maps embeddingOf)
    (dimension : index.dimension = index.embedder.dimension) (batch : Table String Properties) :
    index.Stores (fun texts => .ok (texts.map embeddingOf)) batch
      (batch.map fun _ record => vectorOf index.options embeddingOf record) := by
  by_cases empty : batch = Table.empty
  · subst empty
    exact .nothing rfl
  · rw [← storedTable_map]
    refine .embedded empty rfl ?_
    rw [aligned_of_length (by rw [List.length_map, length_contents])]
    intro embedding member
    obtain ⟨text, -, rfl⟩ := List.mem_map.mp member
    rw [maps.length, dimension]

/-- Over an embedder that maps texts, every embedding that is stored is one of a text. -/
theorem Stores.exists_text {embeddingOf : String → Embedding}
    (stores : index.Stores (fun texts => .ok (texts.map embeddingOf)) batch vectors) {id : String}
    {stored : StoredVector} (found : vectors.get? id = some stored) :
    ∃ text, stored.embedding = embeddingOf text := by
  cases stores with
  | nothing => cases found
  | embedded _ replied _ =>
      cases replied
      rw [storedTable_map, Table.get?_map, Option.map_eq_some_iff] at found
      obtain ⟨record, -, rfl⟩ := found
      exact ⟨_, rfl⟩

end Stores

/-! ## Saving -/

/-- An index can write its snapshot, if it keeps one. -/
def Saves (index : Index σ) (files : FileStore) : Prop :=
  index.options.backend = .file → files.Ready index.options.file

theorem saves_adding_iff {index : Index σ} {files : FileStore}
    (vectors : Table String StoredVector) :
    (index.adding vectors).Saves files ↔ index.Saves files :=
  Iff.rfl

section Save

variable {index other : Index σ} {files written : FileStore}

theorem saves_of_memory (inMemory : index.options.backend = .memory) (files : FileStore) :
    index.Saves files := by
  intro onFile
  rw [inMemory] at onFile
  cases onFile

theorem saves_of_save (done : index.save files = (.ok (), written)) : index.Saves written := by
  rcases save_ok done with ⟨inMemory, -⟩ | ⟨-, outcome⟩
  · exact saves_of_memory inMemory written
  · exact fun _ => FileStore.ready_of_writeThrough outcome

theorem Saves.save (saves : index.Saves files) (done : other.save files = (.ok (), written)) :
    index.Saves written := by
  rcases save_ok done with ⟨-, rfl⟩ | ⟨-, outcome⟩
  · exact saves
  · exact fun onFile => (saves onFile).writeThrough outcome

theorem Saves.exists_save (saves : index.Saves files) :
    ∃ written, index.save files = (.ok (), written) ∧ index.Saves written := by
  obtain ⟨written, done⟩ : ∃ written, index.save files = (.ok (), written) := by
    cases kind : index.options.backend with
    | memory => exact ⟨files, save_of_memory kind files⟩
    | file =>
        obtain ⟨written, outcome⟩ :=
          (saves kind).exists_writeThrough (.text index.snapshot.write)
        rw [Index.save, if_pos kind, outcome]
        exact ⟨written, rfl⟩
  exact ⟨written, done, saves_of_save done⟩

theorem keeps_save (index : Index σ) (files : FileStore) : files.Keeps (index.save files).2 := by
  cases kind : index.options.backend with
  | memory =>
      rw [save_of_memory kind]
      exact .refl files
  | file =>
      have kept := files.keeps_writeThrough index.options.file (.text index.snapshot.write)
      rw [save, if_pos kind]
      cases outcome : files.writeThrough index.options.file (.text index.snapshot.write) with
      | mk verdict after =>
          rw [outcome] at kept
          cases verdict <;> exact kept

theorem keeps_upsert (index : Index σ) (batch : Table String Properties) (host : Host σ) :
    host.files.Keeps (index.upsert batch host).2.2.files := by
  have ending := index.upserted batch host
  generalize (index.upsert batch host).1 = outcome, (index.upsert batch host).2.1 = grown,
    (index.upsert batch host).2.2.files = files at ending ⊢
  cases ending with
  | nothing => exact .refl host.files
  | refused => exact .refl host.files
  | kept => exact .refl host.files
  | @saved _ grown => exact grown.keeps_save host.files

end Save

/-! ## Upserts -/

/-- The index knows its dimension, and its embedder answers alike. -/
structure Steady (index : Index σ)
    (answer : List String → Except Failure (List Embedding)) : Prop where
  known : index.dimension ≠ 0
  settled : index.embedder.Settled answer

section Upsert

variable {index : Index σ} {answer : List String → Except Failure (List Embedding)}
  {batch : Table String Properties} {vectors : Table String StoredVector} {host : Host σ}

theorem stores_of_upsert (steady : index.Steady answer)
    (taken : (index.upsert batch host).1 = .ok ()) :
    ∃ vectors, index.Stores answer batch vectors ∧
      (index.upsert batch host).2.1 = index.adding vectors := by
  have embedded {reply : List Embedding} {grown : Index σ} (filled : batch ≠ Table.empty)
      (replied : index.replyTo batch host = .ok reply)
      (accepted : index.accept batch reply = .ok grown) :
      ∃ vectors, index.Stores answer batch vectors ∧ grown = index.adding vectors := by
    obtain ⟨fits, rfl⟩ := (accept_of_known steady.known batch reply).mp accepted
    rw [replyTo, steady.settled] at replied
    exact ⟨_, .embedded filled replied fits, rfl⟩
  have ending := index.upserted batch host
  generalize (index.upsert batch host).1 = outcome, (index.upsert batch host).2.1 = grown,
    (index.upsert batch host).2.2.files = files at ending taken ⊢
  cases ending with
  | nothing empty => exact ⟨Table.empty, .nothing empty, rfl⟩
  | refused => cases taken
  | kept filled replied accepted => exact embedded filled replied accepted
  | saved filled replied accepted => exact embedded filled replied accepted

/-- How an index that takes a batch leaves the files: its own can be written again if it saves by
itself, and elsewhere none of them has changed. -/
structure Leaves (index : Index σ) (before after : FileStore) : Prop where
  saves : index.options.autoSave = true → index.Saves after
  same : index.options.autoSave = false → after = before

/-- A batch is taken if there is something to store of it, and if the file can be written where the
index saves by itself. -/
theorem upsert_of_stores (steady : index.Steady answer) (stores : index.Stores answer batch vectors)
    (saves : index.options.autoSave = true → index.Saves host.files) :
    ∃ later, index.upsert batch host = (.ok (), index.adding vectors, later) ∧
      index.Leaves host.files later.files := by
  cases stores with
  | nothing empty =>
      subst empty
      exact ⟨host, rfl, saves, fun _ => rfl⟩
  | @embedded reply filled replied fits =>
      have accepted := (accept_of_known steady.known batch reply).mpr ⟨fits, rfl⟩
      have given : ¬ batch.isEmpty = true := fun none => filled (batch.isEmpty_iff.mp none)
      have bound : (index.embedder.embed (contents batch) host.outside).1.bind
          (index.accept batch) = .ok (index.adding (index.storedTable batch reply)) := by
        rw [steady.settled, replied]
        exact accepted
      rw [upsert, if_neg given]
      dsimp only
      rw [bound]
      dsimp only
      split
      case isTrue saving =>
        obtain ⟨written, done, kept⟩ := ((saves_adding_iff _).mpr (saves saving)).exists_save
        rw [done]
        refine ⟨_, rfl, fun _ => kept, fun manual => ?_⟩
        rw [options_adding, manual] at saving
        cases saving
      case isFalse manual =>
        exact ⟨_, rfl, fun saving => absurd saving manual, fun _ => rfl⟩

end Upsert

end Index

end Retrieval
