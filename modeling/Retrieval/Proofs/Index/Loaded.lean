import Retrieval.Proofs.FileStore
import Retrieval.Proofs.Index.Dimension
import Retrieval.Proofs.Index.Start

/-!
# What a start takes over from a snapshot

A start compares the dimension in the snapshot with that of the embedder, if both
tell one, and looks at no record.  So it takes over whatever records the file has,
and all of them have the dimension of the index only if the file already agrees
with it (`Snapshot.Agrees`).
-/

namespace Retrieval

deriving instance DecidableEq for Snapshot

namespace Snapshot

/-- The embedder and the snapshot tell dimensions that differ. -/
def Clashes (snapshot : Snapshot) (known : Nat) : Prop :=
  known ≠ 0 ∧ snapshot.dimension ≠ 0 ∧ snapshot.dimension ≠ known

/-- The dimension of an index that was started over a snapshot. -/
def dimensionOver (snapshot : Snapshot) (known : Nat) : Nat :=
  if known = 0 then snapshot.dimension else known

/-- Of the records with one identifier the last one has an embedding of the given length. -/
def Agrees (snapshot : Snapshot) (length : Nat) : Prop :=
  ∀ id stored, snapshot.records.reverse.lookup id = some stored →
    stored.embedding.length = length

end Snapshot

namespace Index

variable {σ : Type} {name : String} {options : IndexOptions} {embedder : Embedder σ}
  {files : FileStore}

theorem start_eq_load (onFile : options.backend = .file)
    (present : files.contains options.file = true) :
    Index.start name options embedder files = (fresh name options embedder).load files :=
  if_pos ⟨onFile, present⟩

theorem restore_of_clash {index : Index σ} {snapshot : Snapshot}
    (clash : snapshot.Clashes index.dimension) :
    index.restore snapshot = .error (.dimensionMismatch index.dimension snapshot.dimension) :=
  if_pos clash

theorem restore_of_not_clash {index : Index σ} {snapshot : Snapshot}
    (matching : ¬ snapshot.Clashes index.dimension) :
    index.restore snapshot = .ok { index with
      dimension := snapshot.dimensionOver index.dimension
      records := Table.ofList snapshot.records } :=
  if_neg matching

/-- Why an index takes nothing over from the file of its snapshot. -/
inductive Unloaded (index : Index σ) (files : FileStore) : Failure → Prop where
  | unread (missing : files.readText? index.options.file = none) : Unloaded index files .io
  | illegible {text : String} (found : files.readText? index.options.file = some text)
      (meaningless : Snapshot.read? text = none) : Unloaded index files .serialization
  | clashing {text : String} {snapshot : Snapshot}
      (found : files.readText? index.options.file = some text)
      (understood : Snapshot.read? text = some snapshot)
      (clash : snapshot.Clashes index.dimension) :
      Unloaded index files (.dimensionMismatch index.dimension snapshot.dimension)

theorem load_error_iff {index : Index σ} {failure : Failure} :
    index.load files = .error failure ↔ index.Unloaded files failure := by
  constructor
  · intro failed
    unfold load at failed
    cases found : files.readText? index.options.file with
    | none =>
        rw [found] at failed
        cases failed
        exact .unread found
    | some text =>
        rw [found] at failed
        dsimp only at failed
        cases understood : Snapshot.read? text with
        | none =>
            rw [understood] at failed
            cases failed
            exact .illegible found understood
        | some snapshot =>
            rw [understood] at failed
            dsimp only at failed
            by_cases clash : snapshot.Clashes index.dimension
            · rw [restore_of_clash clash] at failed
              cases failed
              exact .clashing found understood clash
            · rw [restore_of_not_clash clash] at failed
              cases failed
  · intro unloaded
    cases unloaded with
    | unread missing => rw [load, missing]
    | illegible found meaningless =>
        rw [load, found]
        dsimp only
        rw [meaningless]
    | clashing found understood clash =>
        rw [load_of_readText? found understood, restore_of_clash clash]

/-- An index is not started exactly if it keeps a snapshot whose file is there and cannot be
taken over. -/
theorem start_error_iff {failure : Failure} :
    Index.start name options embedder files = .error failure ↔
      options.backend = .file ∧ files.contains options.file = true ∧
        (fresh name options embedder).Unloaded files failure := by
  by_cases present : options.backend = .file ∧ files.contains options.file = true
  · rw [start_eq_load present.1 present.2, load_error_iff]
    exact ⟨fun unloaded => ⟨present.1, present.2, unloaded⟩, fun failed => failed.2.2⟩
  · rw [start, if_neg present]
    constructor
    · intro failed
      cases failed
    · rintro ⟨onFile, standing, -⟩
      exact absurd ⟨onFile, standing⟩ present

/-- A file-backed index whose file is there is started exactly if the file is a snapshot whose
dimension does not clash with that of the embedder.  Its records are never looked at: they have
the dimension of the started index exactly if those in the snapshot have it. -/
theorem loaded_records_conform_iff (onFile : options.backend = .file)
    (present : files.contains options.file = true) :
    (files.readText? options.file = none →
      Index.start name options embedder files = .error .io) ∧
    ∀ text, files.readText? options.file = some text →
      (Snapshot.read? text = none →
        Index.start name options embedder files = .error .serialization) ∧
      ∀ snapshot, Snapshot.read? text = some snapshot →
        (snapshot.Clashes embedder.dimension →
          Index.start name options embedder files =
            .error (.dimensionMismatch embedder.dimension snapshot.dimension)) ∧
        (¬ snapshot.Clashes embedder.dimension → ∃ index : Index σ,
          Index.start name options embedder files = .ok index ∧
          index.dimension = snapshot.dimensionOver embedder.dimension ∧
          (index.Conforms ↔ snapshot.Agrees (snapshot.dimensionOver embedder.dimension))) := by
  rw [start_eq_load onFile present]
  constructor
  · intro unread
    have missing : files.readText? (fresh name options embedder).options.file = none := unread
    rw [load, missing]
  · intro text found
    have known : files.readText? (fresh name options embedder).options.file = some text := found
    refine ⟨?_, ?_⟩
    · intro illegible
      rw [load, known]
      dsimp only
      rw [illegible]
    · intro snapshot understood
      rw [load_of_readText? known understood]
      refine ⟨fun clash => restore_of_clash clash, ?_⟩
      intro matching
      refine ⟨_, restore_of_not_clash matching, rfl, ?_⟩
      unfold Conforms Snapshot.Agrees
      simp only [Table.get?_ofList]
      exact Iff.rfl

/-! ## A record that is too short -/

/-- A snapshot of dimension two whose one record has a single number. -/
def shortRecord : Snapshot := ⟨2, .cosine, [("a", ⟨[1.0], Table.empty⟩)]⟩

def shortText : String :=
  "\x7b\"dim\":2,\"metric\":\"cosine\",\"records\":[\x7b\"id\":\"a\",\"embedding\":[1.0]," ++
    "\"metadata\":\x7b\x7d\x7d]\x7d"

/-- The snapshot in the file of an index with default options. -/
def shortFiles : FileStore :=
  ⟨Table.ofList [([IndexOptions.defaultFileName], .file (.text shortText))], []⟩

theorem read?_shortText : Snapshot.read? shortText = some shortRecord := by
  decide +kernel

theorem readText?_shortFiles :
    shortFiles.readText? ⟨IndexOptions.defaultFileName⟩ = some shortText := by
  decide +kernel

theorem contains_shortFiles : shortFiles.contains ⟨IndexOptions.defaultFileName⟩ = true := by
  decide +kernel

/-- Over an embedder with two places the short record is taken over. -/
theorem loaded_records_conform_iff_of_short :
    shortFiles.contains ⟨IndexOptions.defaultFileName⟩ = true ∧
    ∃ index : Index Unit,
      Index.start "chunks" { backend := .file } (.uniform [1.0, 0.0]) shortFiles = .ok index ∧
      index.dimension = 2 ∧ ¬ index.Conforms := by
  have onFile : ({ backend := .file } : IndexOptions).backend = .file := rfl
  obtain ⟨-, legible⟩ := @loaded_records_conform_iff Unit "chunks" _ (.uniform [1.0, 0.0]) _ onFile
    contains_shortFiles
  obtain ⟨-, snapshots⟩ := legible shortText readText?_shortFiles
  obtain ⟨-, matching⟩ := snapshots shortRecord read?_shortText
  obtain ⟨index, started, dimension, conforms⟩ := matching fun clash => clash.2.2 rfl
  refine ⟨contains_shortFiles, index, started, dimension, ?_⟩
  intro conforming
  have length : ([1.0] : Embedding).length = 2 :=
    conforms.mp conforming "a" ⟨[1.0], Table.empty⟩ rfl
  cases length

/-- Not every record that was loaded has the dimension of the index. -/
theorem loaded_records_may_not_conform :
    ¬ ∀ (options : IndexOptions) (embedder : Embedder Unit) (files : FileStore)
        (index : Index Unit), options.backend = .file → files.contains options.file = true →
      Index.start "chunks" options embedder files = .ok index → index.Conforms := by
  intro conforming
  have started : Index.start "chunks" { backend := .file } (.uniform [1.0, 0.0]) shortFiles =
      .ok ⟨"chunks", { backend := .file }, .uniform [1.0, 0.0], 2,
        Table.ofList shortRecord.records⟩ := by
    rw [start_eq_load rfl contains_shortFiles,
      load_of_readText? readText?_shortFiles read?_shortText]
    rfl
  have conforms := conforming { backend := .file } (.uniform [1.0, 0.0]) shortFiles _ rfl
    contains_shortFiles started
  have length : ([1.0] : Embedding).length = 2 := conforms "a" ⟨[1.0], Table.empty⟩ rfl
  cases length

end Index

end Retrieval
