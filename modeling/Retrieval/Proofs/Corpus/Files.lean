import Retrieval.Proofs.Corpus.Growth
import Retrieval.Proofs.Corpus.IndexFile
import Retrieval.Proofs.Index.Snapshot

/-!
# The files of a corpus

The snapshots of the two indices stand in files of different names, so saving a
corpus leaves both of them behind (`saved_of_saveEach`).  No insertion and no save
takes a directory away, so a corpus finds its working directory again.
-/

namespace Retrieval

namespace Corpus

variable {σ : Type}

/-! ## Names -/

theorem apart_indexFiles (workingDirectory storage : Path) :
    (indexFile workingDirectory chunkIndexName storage).Apart
      (indexFile workingDirectory entityIndexName storage) := by
  have ends {indexName : String} (listed : indexName ∈ indexNames) :
      (indexFile workingDirectory indexName storage).EndsIn
        (indexFileName indexName (workingDirectory.join storage)) := by
    have isName := isName_indexFileName listed (workingDirectory.join storage)
    rw [indexFile_eq]
    exact ⟨Path.getLast?_pieces_withFileName isName.filled isName.plain _, isName.down⟩
  exact ⟨_, _, ends chunkIndexName_mem, ends entityIndexName_mem, indexFileName_ne _⟩

/-! ## Directories -/

theorem keeps_indexChunks (corpus : Corpus σ) (chunks : Table String Chunk) (host : Host σ) :
    host.files.Keeps (corpus.indexChunks chunks host).2.2.files := by
  cases present : corpus.chunkIndex with
  | none =>
      rw [indexChunks_of_none present]
      exact .refl host.files
  | some index =>
      rw [indexChunks_of_some present]
      exact index.keeps_upsert (batchOf chunks) host

theorem keeps_insert (corpus : Corpus σ) (texts : List String) (host : Host σ) :
    host.files.Keeps (corpus.insert texts host).2.2.files := by
  by_cases absent : distinctDocuments texts = []
  · rw [insert, absent]
    exact .refl host.files
  · rw [insert_eq absent]
    cases corpus.cut texts with
    | error failure => exact .refl host.files
    | ok pieces =>
        have kept := corpus.keeps_indexChunks pieces host
        dsimp only
        cases outcome : corpus.indexChunks pieces host with
        | mk verdict rest =>
            rw [outcome] at kept
            cases verdict <;> exact kept

theorem keeps_insertEach (corpus : Corpus σ) (batches : List (List String)) (host : Host σ) :
    host.files.Keeps (corpus.insertEach batches host).2.2.files := by
  induction batches generalizing corpus host with
  | nil => exact .refl host.files
  | cons texts rest ih => exact (corpus.keeps_insert texts host).trans (ih _ _)

/-! ## Saving -/

section Save

variable {index : Index σ} {indexes : List (Index σ)} {files saved : FileStore}

theorem exists_save {corpus : Corpus σ} (written : (corpus.save files).1 = .ok ()) :
    ∃ saved, corpus.save files = (.ok (), saved) :=
  ⟨_, Prod.ext written rfl⟩

theorem saveEach_cons (done : save.saveEach (index :: indexes) files = (.ok (), saved)) :
    ∃ written, index.save files = (.ok (), written) ∧
      save.saveEach indexes written = (.ok (), saved) := by
  rw [save.saveEach] at done
  cases outcome : index.save files with
  | mk verdict written =>
      rw [outcome] at done
      cases verdict with
      | error failure => cases done
      | ok => exact ⟨written, rfl, done⟩

theorem keeps_saveEach (done : save.saveEach indexes files = (.ok (), saved)) :
    files.Keeps saved := by
  induction indexes generalizing files with
  | nil =>
      cases done
      exact .refl _
  | cons index rest ih =>
      obtain ⟨written, first, others⟩ := saveEach_cons done
      have kept := index.keeps_save files
      rw [first] at kept
      exact kept.trans (ih others)

theorem saves_of_saveEach (saves : index.Saves files)
    (done : save.saveEach indexes files = (.ok (), saved)) : index.Saves saved := by
  induction indexes generalizing files with
  | nil =>
      cases done
      exact saves
  | cons other rest ih =>
      obtain ⟨written, first, others⟩ := saveEach_cons done
      exact ih (saves.save first) others

theorem found?_of_saveEach {path : Path} {entry : FileEntry}
    (found : files.found? path = some entry)
    (apart : ∀ index ∈ indexes, path.Apart index.options.file)
    (done : save.saveEach indexes files = (.ok (), saved)) : saved.found? path = some entry := by
  induction indexes generalizing files with
  | nil =>
      cases done
      exact found
  | cons index rest ih =>
      obtain ⟨written, first, others⟩ := saveEach_cons done
      obtain ⟨here, later⟩ := List.forall_mem_cons.mp apart
      rcases Index.save_ok first with ⟨-, rfl⟩ | ⟨-, outcome⟩
      · exact ih found later others
      · exact ih (FileStore.found?_of_writeThrough_apart outcome found here) later others

theorem saved_of_saveEach (onFile : ∀ index ∈ indexes, index.options.backend = .file)
    (apart : indexes.Pairwise fun first second => first.options.file.Apart second.options.file)
    (done : save.saveEach indexes files = (.ok (), saved)) :
    ∀ index ∈ indexes,
      saved.found? index.options.file = some (.file (.text index.snapshot.write)) ∧
        index.Saves saved := by
  induction indexes generalizing files with
  | nil => exact fun _ absent => absurd absent List.not_mem_nil
  | cons index rest ih =>
      obtain ⟨written, first, others⟩ := saveEach_cons done
      obtain ⟨here, later⟩ := List.pairwise_cons.mp apart
      obtain ⟨kind, kinds⟩ := List.forall_mem_cons.mp onFile
      refine List.forall_mem_cons.mpr ⟨⟨?_, ?_⟩, ih kinds later others⟩
      · have stands := Index.found?_of_save kind (congrArg Prod.fst first)
        rw [first] at stands
        exact found?_of_saveEach stands here others
      · exact saves_of_saveEach (Index.saves_of_save first) others

theorem saved_of_save {corpus : Corpus σ}
    (onFile : ∀ index, corpus.chunkIndex = some index ∨ corpus.entityIndex = some index →
      index.options.backend = .file)
    (apart : ∀ first second, corpus.chunkIndex = some first → corpus.entityIndex = some second →
      first.options.file.Apart second.options.file)
    (done : corpus.save files = (.ok (), saved)) {index : Index σ}
    (owned : corpus.chunkIndex = some index ∨ corpus.entityIndex = some index) :
    saved.found? index.options.file = some (.file (.text index.snapshot.write)) ∧
      index.Saves saved := by
  have listed {index : Index σ} :
      index ∈ corpus.chunkIndex.toList ++ corpus.entityIndex.toList ↔
        corpus.chunkIndex = some index ∨ corpus.entityIndex = some index := by
    rw [List.mem_append, Option.mem_toList, Option.mem_toList]
  have single (slot : Option (Index σ)) : slot.toList.Pairwise fun first second =>
      first.options.file.Apart second.options.file := by
    cases slot with
    | none => exact .nil
    | some index => exact List.pairwise_singleton _ index
  refine saved_of_saveEach (fun index member => onFile index (listed.mp member)) ?_ done index
    (listed.mpr owned)
  refine List.pairwise_append.mpr ⟨single _, single _, ?_⟩
  intro first member second other
  exact apart first second (Option.mem_toList.mp member) (Option.mem_toList.mp other)

end Save

end Corpus

end Retrieval
