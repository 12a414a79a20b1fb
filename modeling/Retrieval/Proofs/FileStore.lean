import Retrieval.FileStore
import Retrieval.Proofs.Table

/-!
# Files read back

A file is written where no directory stands, in a directory that is there.  So
every place has as many directories before it as it had, all paths lead where
they led, and the path that was written finds the new contents.
-/

namespace Retrieval

namespace FileStore

theorem walk?_congr {first second : FileStore}
    (same : ∀ place, first.isDirectoryAt place = second.isDirectoryAt place) (place : Place)
    (pieces : List String) : first.walk? place pieces = second.walk? place pieces := by
  induction pieces generalizing place with
  | nil => rfl
  | cons piece rest ih => simp only [walk?, same, ih]

section Write

variable {files written : FileStore} {path : Path} {contents : Contents}

/-- A file is written at the place of its path, where no directory stands, into a directory. -/
theorem write?_ok (done : files.write? path contents = some written) :
    ∃ place, files.place? path = some place ∧ path.endsWithSlash = false ∧
      files.isDirectoryAt place = false ∧ files.isDirectoryAt place.dropLast = true ∧
      written = { files with entries := files.entries.insert place (.file contents) } := by
  unfold write? at done
  cases located : files.place? path with
  | none =>
      rw [located] at done
      cases done
  | some place =>
      rw [located] at done
      change (if _ then none else some _) = _ at done
      split at done
      · cases done
      · next fits =>
        cases done
        simp only [Bool.or_eq_true, not_or, Bool.not_eq_true, Bool.not_eq_false'] at fits
        exact ⟨place, rfl, fits.1.1, fits.1.2, fits.2, rfl⟩

theorem entryAt?_insert {place : Place} (free : files.isDirectoryAt place = false)
    (entry : FileEntry) (other : Place) :
    ({ files with entries := files.entries.insert place entry } : FileStore).entryAt? other =
      if other = place then some entry else files.entryAt? other := by
  have notRoot : place ≠ [] := by
    rintro rfl
    have root : files.isDirectoryAt [] = true := rfl
    rw [root] at free
    cases free
  unfold entryAt?
  by_cases root : other = []
  · rw [if_pos root, if_pos root, if_neg (root ▸ notRoot.symm)]
  · rw [if_neg root, if_neg root, Table.get?_insert]

theorem found?_of_write? (done : files.write? path contents = some written) :
    written.found? path = some (.file contents) := by
  obtain ⟨place, located, file, free, -, rfl⟩ := write?_ok done
  have entries := entryAt?_insert free (.file contents)
  have directories (other : Place) :
      ({ files with entries := files.entries.insert place (.file contents) } :
        FileStore).isDirectoryAt other = files.isDirectoryAt other := by
    rw [isDirectoryAt, entries]
    by_cases here : other = place
    · rw [if_pos here, here, free]
      rfl
    · rw [if_neg here]
      rfl
  have kept : ({ files with entries := files.entries.insert place (.file contents) } :
      FileStore).place? path = some place := by
    rw [← located, place?, walk?_congr directories]
    rfl
  have here := entries place
  rw [if_pos rfl] at here
  rw [found?, kept]
  change (({ files with entries := files.entries.insert place (.file contents) } :
    FileStore).entryAt? place).bind _ = _
  rw [here, file]
  rfl

/-- The files with all directories that lead to a path, as far as they could be made. -/
def prepared (files : FileStore) (path : Path) : Bool × FileStore :=
  match path.parent? with
  | none => (true, files)
  | some parent => files.makeDirectories parent

theorem writeThrough_eq (files : FileStore) (path : Path) (contents : Contents) :
    files.writeThrough path contents =
      if (files.prepared path).1 then
        match (files.prepared path).2.write? path contents with
        | none => (false, (files.prepared path).2)
        | some written => (true, written)
      else (false, (files.prepared path).2) :=
  rfl

theorem found?_of_writeThrough (done : (files.writeThrough path contents).1 = true) :
    (files.writeThrough path contents).2.found? path = some (.file contents) := by
  rw [writeThrough_eq] at done ⊢
  split at done
  · next made =>
    rw [if_pos made]
    cases outcome : (files.prepared path).2.write? path contents with
    | none =>
        rw [outcome] at done
        cases done
    | some written => exact found?_of_write? outcome
  · cases done

theorem readText?_of_found? {text : String}
    (found : files.found? path = some (.file (.text text))) :
    files.readText? path = some text := by
  rw [readText?, found]

theorem contains_of_found? {entry : FileEntry} (found : files.found? path = some entry) :
    files.contains path = true := by
  rw [contains, found]
  rfl

end Write

end FileStore

end Retrieval
