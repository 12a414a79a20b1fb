import Retrieval.Index.Snapshot

/-!
# Starting an index

A started index has the options and the embedder that it was given, and without
a snapshot it has no records.
-/

namespace Retrieval

namespace Index

variable {σ : Type} {name : String} {options : IndexOptions} {embedder : Embedder σ}
  {files : FileStore} {index : Index σ}

theorem restore_ok {snapshot : Snapshot} {restored : Index σ}
    (done : index.restore snapshot = .ok restored) :
    restored = { index with
      dimension := if index.dimension = 0 then snapshot.dimension else index.dimension
      records := Table.ofList snapshot.records } := by
  unfold restore at done
  split at done
  · cases done
  · cases done
    rfl

theorem load_ok {loaded : Index σ} (done : index.load files = .ok loaded) :
    ∃ text snapshot, files.readText? index.options.file = some text ∧
      Snapshot.read? text = some snapshot ∧ index.restore snapshot = .ok loaded := by
  unfold load at done
  cases found : files.readText? index.options.file with
  | none =>
      rw [found] at done
      cases done
  | some text =>
      rw [found] at done
      dsimp only at done
      cases understood : Snapshot.read? text with
      | none =>
          rw [understood] at done
          cases done
      | some snapshot =>
          rw [understood] at done
          exact ⟨text, snapshot, rfl, understood, done⟩

theorem load_of_readText? {text : String} {snapshot : Snapshot}
    (found : files.readText? index.options.file = some text)
    (understood : Snapshot.read? text = some snapshot) :
    index.load files = index.restore snapshot := by
  rw [load, found]
  dsimp only
  rw [understood]

/-- A started index is fresh, or it was loaded from the file of a file-backed one. -/
theorem start_ok (started : Index.start name options embedder files = .ok index) :
    index = fresh name options embedder ∨
      options.backend = .file ∧ (fresh name options embedder).load files = .ok index := by
  unfold start at started
  dsimp only at started
  split at started
  · next condition => exact .inr ⟨condition.1, started⟩
  · cases started
    exact .inl rfl

/-- What a start does depends on the dimension of the embedder and on what stands at the path. -/
theorem start_congr {before : FileStore} (name other : String) {provider : Embedder σ}
    (alike : provider.dimension = embedder.dimension)
    (same : files.found? options.file = before.found? options.file) :
    Index.start other options provider files =
      (Index.start name options embedder before).map fun index =>
        { index with name := other, embedder := provider } := by
  have present : files.contains options.file = before.contains options.file := by
    rw [FileStore.contains, same, FileStore.contains]
  have text : files.readText? options.file = before.readText? options.file := by
    rw [FileStore.readText?, same, FileStore.readText?]
  unfold start load fresh
  dsimp only
  rw [present, text, alike]
  split
  · cases before.readText? options.file with
    | none => rfl
    | some text =>
        dsimp only
        cases Snapshot.read? text with
        | none => rfl
        | some snapshot =>
            unfold restore
            dsimp only
            split <;> rfl
  · rfl

theorem options_of_start (started : Index.start name options embedder files = .ok index) :
    index.options = options := by
  rcases start_ok started with rfl | ⟨-, loaded⟩
  · rfl
  · obtain ⟨text, snapshot, -, -, restored⟩ := load_ok loaded
    rw [restore_ok restored]
    rfl

theorem embedder_of_start (started : Index.start name options embedder files = .ok index) :
    index.embedder = embedder := by
  rcases start_ok started with rfl | ⟨-, loaded⟩
  · rfl
  · obtain ⟨text, snapshot, -, -, restored⟩ := load_ok loaded
    rw [restore_ok restored]
    rfl

theorem start_eq_fresh
    (absent : options.backend = .memory ∨ files.contains options.file = false) :
    Index.start name options embedder files = .ok (fresh name options embedder) := by
  have unread : ¬ (options.backend = .file ∧ files.contains options.file) := by
    rintro ⟨onFile, present⟩
    rcases absent with inMemory | missing
    · rw [onFile] at inMemory
      cases inMemory
    · rw [missing] at present
      cases present
  rw [start, if_neg unread]

theorem start_of_absent
    (absent : options.backend = .memory ∨ files.contains options.file = false)
    (started : Index.start name options embedder files = .ok index) :
    index = fresh name options embedder :=
  Except.ok.inj (started.symm.trans (start_eq_fresh absent))

theorem start_of_memory (started : Index.start name options embedder files = .ok index)
    (inMemory : options.backend = .memory) : index = fresh name options embedder :=
  start_of_absent (.inl inMemory) started

end Index

end Retrieval
