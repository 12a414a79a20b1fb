import Retrieval.Proofs.Index.Snapshot
import Retrieval.Proofs.Json.Single

/-!
# Snapshots with numbers that are not finite

A number that is not finite is written as null, and null is read as no number.
An index is saved whatever its numbers are, and it is started again exactly when
all of them are finite: one number that is not makes the whole file useless.
-/

namespace Retrieval

namespace Snapshot

def isLegible (snapshot : Snapshot) : Bool :=
  snapshot.records.all fun record => record.2.embedding.all Float32.isFinite

theorem isSome_rereadRecord? (record : String × StoredVector) :
    (rereadRecord? record).isSome = record.2.embedding.all Float32.isFinite := by
  have numbers : (record.2.embedding.mapM fun value => (Json.ofSingle value).single?).isSome =
      record.2.embedding.all Float32.isFinite := by
    rw [Json.isSome_mapM]
    simp only [Json.isSome_single?_ofSingle]
  rw [← numbers, rereadRecord?]
  cases record.2.embedding.mapM fun value => (Json.ofSingle value).single? <;> rfl

theorem isSome_reread? (snapshot : Snapshot) : snapshot.reread?.isSome = snapshot.isLegible := by
  have records : (snapshot.records.mapM rereadRecord?).isSome = snapshot.isLegible := by
    rw [Json.isSome_mapM]
    simp only [isSome_rereadRecord?]
    rfl
  rw [← records, reread?]
  cases snapshot.records.mapM rereadRecord? <;> rfl

theorem fst_of_rereadRecord? {record reread : String × StoredVector}
    (read : rereadRecord? record = some reread) : reread.1 = record.1 := by
  rw [rereadRecord?] at read
  cases numbers : record.2.embedding.mapM fun value => (Json.ofSingle value).single? with
  | none =>
      rw [numbers] at read
      cases read
  | some embedding =>
      rw [numbers] at read
      cases read
      rfl

theorem reread?_some {snapshot reread : Snapshot} (read : snapshot.reread? = some reread) :
    reread.dimension = snapshot.dimension ∧
      reread.records.map (·.1) = snapshot.records.map (·.1) := by
  rw [reread?] at read
  cases records : snapshot.records.mapM rereadRecord? with
  | none =>
      rw [records] at read
      cases read
  | some others =>
      rw [records] at read
      cases read
      exact ⟨rfl, Json.map_of_mapM (fun _ _ => fst_of_rereadRecord?) records⟩

end Snapshot

namespace Index

variable {σ : Type}

/-- Every number that the index stores is finite. -/
def Legible (index : Index σ) : Prop :=
  ∀ id stored, index.records.get? id = some stored →
    ∀ value ∈ stored.embedding, value.isFinite = true

theorem legible_iff (index : Index σ) : index.Legible ↔ index.snapshot.isLegible = true := by
  rw [Snapshot.isLegible, List.all_eq_true]
  constructor
  · rintro legible ⟨id, stored⟩ inside
    exact List.all_eq_true.mpr (legible id stored (Table.get?_eq_some_iff.mpr inside))
  · intro every id stored found
    exact List.all_eq_true.mp (every (id, stored) (Table.get?_eq_some_iff.mp found))

theorem start_of_unread {name : String} {options : IndexOptions} {embedder : Embedder σ}
    {files : FileStore} {text : String} (onFile : options.backend = .file)
    (found : files.found? options.file = some (.file (.text text)))
    (unread : Snapshot.read? text = none) :
    Index.start name options embedder files = .error .serialization := by
  have present := FileStore.contains_of_found? found
  have known : files.readText? (fresh name options embedder).options.file = some text :=
    FileStore.readText?_of_found? found
  rw [start, if_pos ⟨onFile, present⟩, load, known]
  dsimp only
  rw [unread]

/-- A file-backed index that was saved after any run is started again from its file, with the same
dimension and the same identifiers, if all its numbers are finite.  If one of them is not, the
file cannot be read. -/
theorem saved_index_starts_iff_legible {name : String} {options : IndexOptions}
    {embedder : Embedder σ} {before : FileStore} {first index : Index σ}
    (started : Index.start name options embedder before = .ok first) (run : first.Leads index)
    (onFile : options.backend = .file) (fits : index.dimension < UInt64.size)
    {files : FileStore} (saved : (index.save files).1 = .ok ()) (other : String)
    {provider : Embedder σ} (alike : provider.dimension = embedder.dimension) :
    (index.Legible → ∃ restored,
      Index.start other options provider (index.save files).2 = .ok restored ∧
      restored.dimension = index.dimension ∧ restored.records.keys = index.records.keys) ∧
    (¬ index.Legible →
      Index.start other options provider (index.save files).2 = .error .serialization) := by
  have sameOptions : index.options = options := run.options_eq.trans (options_of_start started)
  have found := found?_of_save (sameOptions ▸ onFile) saved
  rw [sameOptions] at found
  have understood : Snapshot.read? index.snapshot.write = index.snapshot.reread? :=
    Snapshot.read?_write_eq_reread? fits
  have readable := index.snapshot.isSome_reread?
  constructor
  · intro legible
    rw [(legible_iff index).mp legible] at readable
    obtain ⟨reread, read⟩ := Option.isSome_iff_exists.mp readable
    obtain ⟨dimension, keys⟩ := Snapshot.reread?_some read
    have agrees : provider.dimension = 0 ∨ provider.dimension = reread.dimension := by
      rw [dimension]
      exact provider_agrees started run alike
    have ascending : Ascending reread.records := by
      rw [Table.ascending_iff_keys, keys]
      exact index.records.pairwise_keys
    refine ⟨_, start_of_found? onFile found (understood.trans read) agrees, dimension, ?_⟩
    rw [Table.ofList_eq ascending]
    exact keys
  · intro illegible
    have unread : index.snapshot.reread? = none := by
      rw [← Option.isNone_iff_eq_none, ← Option.isSome_eq_false_iff, readable, Bool.eq_false_iff]
      exact fun legible => illegible ((legible_iff index).mpr legible)
    exact start_of_unread onFile found (understood.trans unread)

/-! ## An infinite number -/

/-- An embedder that takes every text for infinite. -/
def boundless : Embedder Unit := .uniform [Float32.ofBits 0x7F800000]

def filedOptions : IndexOptions := { backend := .file }

/-- A record under an identifier, with a content. -/
def contentBatch (id content : String) : Table String Properties :=
  Table.ofList [(id, Table.ofList [("content", content)])]

/-- One record over an embedder, to be kept in a file. -/
def oneRecord (embedder : Embedder Unit) : Index Unit :=
  ((fresh "chunks" filedOptions embedder).upsert (contentBatch "a" "x")
    ⟨FileStore.empty, ()⟩).2.1

theorem start_filedOptions (embedder : Embedder Unit) :
    Index.start "chunks" filedOptions embedder FileStore.empty =
      .ok (fresh "chunks" filedOptions embedder) :=
  rfl

theorem leads_oneRecord (embedder : Embedder Unit) :
    (fresh "chunks" filedOptions embedder).Leads (oneRecord embedder) :=
  .perform .start (.upsert _) ⟨FileStore.empty, ()⟩

theorem save_oneRecord_boundless :
    ((oneRecord boundless).save FileStore.empty).1 = .ok () := by
  decide +kernel

theorem not_legible_oneRecord_boundless : ¬ (oneRecord boundless).Legible := by
  rw [legible_iff]
  decide +kernel

/-- The same record is found again with one number and lost with another one. -/
theorem saved_index_starts_iff_legible_of_one :
    (∃ restored, Index.start "chunks" filedOptions (.uniform [1.0])
        ((oneRecord (.uniform [1.0])).save FileStore.empty).2 = .ok restored ∧
      restored.dimension = 1 ∧ restored.records.keys = ["a"]) ∧
    Index.start "chunks" filedOptions boundless
      ((oneRecord boundless).save FileStore.empty).2 = .error .serialization := by
  have saved : ((oneRecord (.uniform [1.0])).save FileStore.empty).1 = .ok () := by decide +kernel
  have legible : (oneRecord (.uniform [1.0])).Legible := by
    rw [legible_iff]
    decide +kernel
  obtain ⟨starts, -⟩ := saved_index_starts_iff_legible (start_filedOptions (.uniform [1.0]))
    (leads_oneRecord (.uniform [1.0])) rfl (by decide) saved "chunks" rfl
  obtain ⟨-, fails⟩ := saved_index_starts_iff_legible (start_filedOptions boundless)
    (leads_oneRecord boundless) rfl (by decide) save_oneRecord_boundless "chunks" rfl
  exact ⟨starts legible, fails not_legible_oneRecord_boundless⟩

/-- Not every index that was saved can be started again. -/
theorem saved_index_may_not_start :
    ¬ ∀ (options : IndexOptions) (embedder : Embedder Unit) (before files : FileStore)
        (first index : Index Unit), options.backend = .file →
      Index.start "chunks" options embedder before = .ok first → first.Leads index →
      (index.save files).1 = .ok () →
      ∃ restored, Index.start "chunks" options embedder (index.save files).2 = .ok restored := by
  intro starting
  obtain ⟨restored, started⟩ := starting filedOptions boundless FileStore.empty FileStore.empty _ _
    rfl (start_filedOptions boundless) (leads_oneRecord boundless) save_oneRecord_boundless
  have unread : Snapshot.read? (oneRecord boundless).snapshot.write = none := by
    rw [Snapshot.read?_write_eq_reread? (by decide), ← Option.isNone_iff_eq_none]
    decide +kernel
  have found : ((oneRecord boundless).save FileStore.empty).2.found? filedOptions.file =
      some (.file (.text (oneRecord boundless).snapshot.write)) :=
    found?_of_save rfl save_oneRecord_boundless
  have failed : Index.start "chunks" filedOptions boundless
      ((oneRecord boundless).save FileStore.empty).2 = .error .serialization :=
    start_of_unread rfl found unread
  rw [failed] at started
  cases started

end Index

end Retrieval
