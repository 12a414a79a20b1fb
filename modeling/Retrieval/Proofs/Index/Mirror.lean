import Retrieval.Proofs.Index.Dimension
import Retrieval.Proofs.Index.Reread

/-!
# Indices that write themselves out

A file-backed index that saves by itself writes its snapshot with every batch
that it accepts, and nothing else changes it.  So its file holds either what the
index was started from or the snapshot of what it is now, and a second index
that is started over the file at any time has the same records.
-/

namespace Retrieval

namespace Index

variable {σ : Type}

/-- Every file that the operation writes is written. -/
def Operation.Written (index : Index σ) (host : Host σ) : Operation → Prop
  | .upsert batch => ∀ reply grown, batch ≠ Table.empty → index.replyTo batch host = .ok reply →
      index.accept batch reply = .ok grown → (grown.save host.files).1 = .ok ()
  | .query _ _ => True
  | .save => (index.save host.files).1 = .ok ()

/-- The index and the files after a run in which every write succeeds and nobody else touches the
file of the index.  The embedder may be in any state at any time. -/
inductive Undisturbed (first : Index σ) (before : FileStore) : Index σ → FileStore → Prop where
  | start : Undisturbed first before first before
  | perform {index : Index σ} {files : FileStore} (earlier : Undisturbed first before index files)
      (operation : Operation) (outside : σ) (written : operation.Written index ⟨files, outside⟩) :
      Undisturbed first before (operation.perform index ⟨files, outside⟩).1
        (operation.perform index ⟨files, outside⟩).2.files
  | others {index : Index σ} {files after : FileStore}
      (earlier : Undisturbed first before index files)
      (kept : after.found? first.options.file = files.found? first.options.file) :
      Undisturbed first before index after

/-- The path leads to what the index was started from, if it has not changed since, or to its
snapshot. -/
def Mirrored (first : Index σ) (before : FileStore) (index : Index σ) (files : FileStore) : Prop :=
  (index = first ∧ files.found? first.options.file = before.found? first.options.file) ∨
    files.found? first.options.file = some (.file (.text index.snapshot.write))

section Run

variable {first index : Index σ} {before files : FileStore}

theorem Undisturbed.leads (run : Undisturbed first before index files) : first.Leads index := by
  induction run with
  | start => exact .start
  | perform _ operation outside _ ih => exact .perform ih operation ⟨_, outside⟩
  | others _ _ ih => exact ih

theorem mirrored_of_save (sameOptions : index.options = first.options)
    (onFile : first.options.backend = .file) (saved : (index.save files).1 = .ok ()) :
    Mirrored first before index (index.save files).2 := by
  rw [← sameOptions] at onFile
  have found := found?_of_save onFile saved
  rw [sameOptions] at found
  exact .inr found

/-- An operation that writes nothing changes nothing, and one that writes leaves the snapshot of
the index behind. -/
theorem Mirrored.perform (mirrored : Mirrored first before index files)
    (sameOptions : index.options = first.options) (onFile : first.options.backend = .file)
    (saves : first.options.autoSave = true) {operation : Operation} {outside : σ}
    (written : operation.Written index ⟨files, outside⟩) :
    Mirrored first before (operation.perform index ⟨files, outside⟩).1
      (operation.perform index ⟨files, outside⟩).2.files := by
  cases operation with
  | query text limit => exact mirrored
  | save => exact mirrored_of_save sameOptions onFile written
  | upsert batch =>
      have ending := index.upserted batch ⟨files, outside⟩
      change Mirrored first before (index.upsert batch ⟨files, outside⟩).2.1
        (index.upsert batch ⟨files, outside⟩).2.2.files
      generalize (index.upsert batch ⟨files, outside⟩).1 = outcome,
        (index.upsert batch ⟨files, outside⟩).2.1 = grown,
        (index.upsert batch ⟨files, outside⟩).2.2.files = after at ending ⊢
      cases ending with
      | nothing => exact mirrored
      | refused => exact mirrored
      | kept _ _ _ unsaved =>
          rw [sameOptions, saves] at unsaved
          cases unsaved
      | saved filled replied accepted =>
          exact mirrored_of_save ((options_of_accept accepted).trans sameOptions) onFile
            (written _ _ filled replied accepted)

theorem Undisturbed.mirrored (run : Undisturbed first before index files)
    (onFile : first.options.backend = .file) (saves : first.options.autoSave = true) :
    Mirrored first before index files := by
  induction run with
  | start => exact .inl ⟨rfl, rfl⟩
  | perform earlier operation outside written ih =>
      exact ih.perform earlier.leads.options_eq onFile saves written
  | others _ kept ih =>
      rcases ih with ⟨same, original⟩ | found
      · exact .inl ⟨same, kept.trans original⟩
      · exact .inr (kept.trans found)

end Run

/-- At every point of an undisturbed run, an index that saves by itself can be started once more
from its file, over any embedder that tells the same dimension: with the same dimension and the
same records.  Its numbers have to be finite, and read back from their numerals. -/
theorem restarted_index_mirrors {name : String} {options : IndexOptions} {embedder : Embedder σ}
    {before files : FileStore} {first index : Index σ}
    (started : Index.start name options embedder before = .ok first)
    (onFile : options.backend = .file) (saves : options.autoSave = true)
    (run : Undisturbed first before index files) (fits : index.dimension < UInt64.size)
    (finite : index.Legible)
    (rereads : ∀ id stored, index.records.get? id = some stored →
      ∀ value ∈ stored.embedding, value.isFinite = true → Rereads value)
    (other : String) {provider : Embedder σ} (alike : provider.dimension = embedder.dimension) :
    ∃ restored, Index.start other options provider files = .ok restored ∧
      restored.dimension = index.dimension ∧ restored.records = index.records := by
  have sameOptions := options_of_start started
  have mirrored := run.mirrored (sameOptions ▸ onFile) (sameOptions ▸ saves)
  rw [Mirrored, sameOptions] at mirrored
  rcases mirrored with ⟨rfl, original⟩ | found
  · have again := start_congr name other alike original
    rw [started] at again
    exact ⟨_, again, rfl, rfl⟩
  · have understood : Snapshot.read? index.snapshot.write = some index.snapshot := by
      refine Snapshot.read?_write fits ?_
      rintro ⟨id, stored⟩ inside value member
      have bound := Table.get?_eq_some_iff.mpr inside
      exact rereads id stored bound value member (finite id stored bound value member)
    have restarted : Index.start other options provider files = .ok _ :=
      start_of_found? onFile found understood (provider_agrees started run.leads alike)
    exact ⟨_, restarted, rfl, Table.ofList_entries index.records⟩

/-! ## A refused batch after an accepted one -/

def savingOptions : IndexOptions := { backend := .file, autoSave := true }

/-- The first batch gives the index its dimension; the second one has another and is refused.
After both of them the file tells of the first one. -/
theorem restarted_index_mirrors_of_refused :
    ∃ (index : Index Unit) (files : FileStore),
      Undisturbed (fresh "chunks" savingOptions .bytewise) FileStore.empty index files ∧
      (index.upsert (contentBatch "b" "xy") ⟨files, ()⟩).1 = .error (.dimensionMismatch 1 2) ∧
      Undisturbed (fresh "chunks" savingOptions .bytewise) FileStore.empty
        (index.upsert (contentBatch "b" "xy") ⟨files, ()⟩).2.1
        (index.upsert (contentBatch "b" "xy") ⟨files, ()⟩).2.2.files ∧
      ∃ restored, Index.start "chunks" savingOptions .bytewise
          (index.upsert (contentBatch "b" "xy") ⟨files, ()⟩).2.2.files = .ok restored ∧
        restored.dimension = 1 ∧
        restored.records = Table.ofList [("a", ⟨[1.0], Table.empty⟩)] := by
  let first : Index Unit := fresh "chunks" savingOptions .bytewise
  let grown := first.upsert (contentBatch "a" "x") ⟨FileStore.empty, ()⟩
  let refused := grown.2.1.upsert (contentBatch "b" "xy") ⟨grown.2.2.files, ()⟩
  have started : Index.start "chunks" savingOptions .bytewise FileStore.empty = .ok first := rfl
  have run : Undisturbed first FileStore.empty grown.2.1 grown.2.2.files := by
    refine .perform .start (.upsert (contentBatch "a" "x")) () ?_
    intro reply accepting filled replied accepted
    cases replied
    cases accepted
    decide +kernel
  have later : Undisturbed first FileStore.empty refused.2.1 refused.2.2.files := by
    refine .perform run (.upsert (contentBatch "b" "xy")) () ?_
    intro reply accepting filled replied accepted
    cases replied
    cases accepted
  have records : refused.2.1.records = Table.ofList [("a", ⟨[1.0], Table.empty⟩)] := rfl
  have only : ∀ entry ∈ refused.2.1.records.entries, ∀ value ∈ entry.2.embedding,
      value.isFinite = true ∧ Rereads value := by
    rw [records]
    unfold Rereads
    decide +kernel
  obtain ⟨restored, restarted, dimension, same⟩ :=
    restarted_index_mirrors started rfl rfl later (by decide)
      (fun id stored found value member =>
        (only _ (Table.get?_eq_some_iff.mp found) value member).1)
      (fun id stored found value member _ =>
        (only _ (Table.get?_eq_some_iff.mp found) value member).2) "chunks" rfl
  exact ⟨_, _, run, rfl, later, restored, restarted, dimension, same.trans records⟩

end Index

end Retrieval
