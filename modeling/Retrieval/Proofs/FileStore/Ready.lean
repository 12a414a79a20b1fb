import Retrieval.Proofs.FileStore
import Retrieval.Proofs.Path

/-!
# Files written again

Directories are made where nothing stands, and files are written where no
directory stands, so every directory stays one.  A path whose directories were
made once needs no more of them, and a file that was written once can be written
again (`Ready`), whatever is written elsewhere in between.
-/

namespace Retrieval

namespace FileStore

/-- Every directory stays a directory, and relative paths start where they started. -/
structure Keeps (before after : FileStore) : Prop where
  workingDirectory : after.workingDirectory = before.workingDirectory
  directories : ∀ place, before.isDirectoryAt place = true → after.isDirectoryAt place = true

structure Grows (before after : FileStore) : Prop where
  workingDirectory : after.workingDirectory = before.workingDirectory
  entries : ∀ place entry, before.entryAt? place = some entry → after.entryAt? place = some entry

section Changes

variable {first second third before after files made written : FileStore} {path : Path}
  {contents : Contents}

theorem Keeps.refl (files : FileStore) : files.Keeps files := ⟨rfl, fun _ directory => directory⟩

theorem Keeps.trans (early : first.Keeps second) (late : second.Keeps third) :
    first.Keeps third where
  workingDirectory := late.workingDirectory.trans early.workingDirectory
  directories := fun place directory => late.directories place (early.directories place directory)

theorem Grows.refl (files : FileStore) : files.Grows files := ⟨rfl, fun _ _ present => present⟩

theorem Grows.trans (early : first.Grows second) (late : second.Grows third) :
    first.Grows third where
  workingDirectory := late.workingDirectory.trans early.workingDirectory
  entries := fun place entry present => late.entries place entry (early.entries place entry present)

theorem isDirectoryAt_iff (files : FileStore) (place : Place) :
    files.isDirectoryAt place = true ↔ files.entryAt? place = some .directory := by
  rw [isDirectoryAt, beq_iff_eq]

theorem isDirectoryAt_of_absent {place : Place} (absent : files.entryAt? place = none) :
    files.isDirectoryAt place = false := by
  rw [isDirectoryAt, absent]
  rfl

theorem Grows.keeps (grows : before.Grows after) : before.Keeps after where
  workingDirectory := grows.workingDirectory
  directories := by
    intro place directory
    rw [isDirectoryAt_iff] at directory ⊢
    exact grows.entries place .directory directory

/-! ## Paths -/

/-- Where one piece of a path leads from a directory. -/
def step? (place : Place) (piece : String) : Option Place :=
  if piece = "." then some place
  else if piece = ".." then some place.dropLast
  else if nameLimit < piece.utf8ByteSize then none
  else some (place ++ [piece])

theorem walk?_cons (files : FileStore) (place : Place) (piece : String) (rest : List String) :
    files.walk? place (piece :: rest) =
      if files.isDirectoryAt place then (step? place piece).bind fun next => files.walk? next rest
      else none := by
  rw [walk?, step?]
  cases files.isDirectoryAt place with
  | false => rfl
  | true =>
      simp only [Bool.not_true, Bool.false_eq_true, if_false, if_true]
      split
      · rfl
      · split
        · rfl
        · split <;> rfl

theorem walk?_cons_ok {place target : Place} {piece : String} {rest : List String}
    (walked : files.walk? place (piece :: rest) = some target) :
    files.isDirectoryAt place = true ∧
      ∃ next, step? place piece = some next ∧ files.walk? next rest = some target := by
  rw [walk?_cons] at walked
  split at walked
  · next directory => exact ⟨directory, Option.bind_eq_some_iff.mp walked⟩
  · cases walked

theorem Keeps.walk? (keeps : before.Keeps after) {place target : Place} {pieces : List String}
    (walked : before.walk? place pieces = some target) :
    after.walk? place pieces = some target := by
  induction pieces generalizing place with
  | nil => exact walked
  | cons piece rest ih =>
      obtain ⟨directory, next, step, further⟩ := walk?_cons_ok walked
      rw [walk?_cons, if_pos (keeps.directories place directory), step]
      exact ih further

theorem Keeps.place? (keeps : before.Keeps after) {place : Place}
    (located : before.place? path = some place) : after.place? path = some place := by
  unfold FileStore.place? at located ⊢
  cases usable : isUsable path with
  | false =>
      rw [usable] at located
      cases located
  | true =>
      rw [usable, if_pos rfl] at located
      have start : after.origin path = before.origin path := by
        rw [origin, origin, keeps.workingDirectory]
      rw [if_pos rfl, start]
      exact keeps.walk? located

theorem getLast?_walk? {place target : Place} {pieces : List String} {name : String}
    (walked : files.walk? place pieces = some target) (last : pieces.getLast? = some name)
    (down : name ≠ "." ∧ name ≠ "..") : target.getLast? = some name := by
  induction pieces generalizing place with
  | nil => cases last
  | cons piece rest ih =>
      obtain ⟨-, next, step, further⟩ := walk?_cons_ok walked
      cases rest with
      | nil =>
          obtain rfl : piece = name := Option.some.inj last
          cases further
          rw [step?, if_neg down.1, if_neg down.2] at step
          split at step
          · cases step
          · cases step
            exact List.getLast?_concat
      | cons second others => exact ih further last

theorem getLast?_place? {place : Place} {name : String} (located : files.place? path = some place)
    (ends : path.EndsIn name) : place.getLast? = some name := by
  unfold FileStore.place? at located
  split at located
  · exact getLast?_walk? located ends.last ends.down
  · cases located

theorem isDirectory_iff (files : FileStore) (path : Path) :
    files.isDirectory path = true ↔
      ∃ place, files.place? path = some place ∧ files.isDirectoryAt place = true := by
  unfold isDirectory found? isDirectoryAt
  cases located : files.place? path with
  | none => simp
  | some place =>
      cases present : files.entryAt? place with
      | none => simp [present]
      | some entry => cases entry <;> simp [present]

theorem Keeps.isDirectory (keeps : before.Keeps after)
    (directory : before.isDirectory path = true) :
    after.isDirectory path = true := by
  rw [isDirectory_iff] at directory ⊢
  obtain ⟨place, located, stands⟩ := directory
  exact ⟨place, keeps.place? located, keeps.directories place stands⟩

/-! ## Directories -/

theorem makeDirectory?_ok (done : files.makeDirectory? path = some made) :
    files.isDirectory path = true ∧ made = files ∨
    ∃ place, files.place? path = some place ∧ files.entryAt? place = none ∧
      made = { files with entries := files.entries.insert place .directory } := by
  unfold makeDirectory? at done
  cases already : files.isDirectory path with
  | true =>
      rw [already] at done
      cases done
      exact .inl ⟨rfl, rfl⟩
  | false =>
      rw [already] at done
      cases located : files.place? path with
      | none =>
          rw [located] at done
          cases done
      | some place =>
          rw [located] at done
          simp only [Bool.false_eq_true, if_false, Option.pure_def, Option.bind_eq_bind,
            Option.bind_some] at done
          split at done
          · next fits =>
            cases done
            simp only [Bool.and_eq_true, Option.isNone_iff_eq_none] at fits
            exact .inr ⟨place, rfl, fits.1.2, rfl⟩
          · cases done

theorem grows_insert {place : Place} (absent : files.entryAt? place = none) (entry : FileEntry) :
    files.Grows { files with entries := files.entries.insert place entry } where
  workingDirectory := rfl
  entries := by
    intro other stands present
    have free := isDirectoryAt_of_absent absent
    have elsewhere : other ≠ place := by
      rintro rfl
      rw [absent] at present
      cases present
    rw [entryAt?_insert free, if_neg elsewhere, present]

theorem grows_makeDirectory? (done : files.makeDirectory? path = some made) : files.Grows made := by
  rcases makeDirectory?_ok done with ⟨-, rfl⟩ | ⟨place, -, absent, rfl⟩
  · exact .refl made
  · exact grows_insert absent .directory

theorem isDirectory_of_makeDirectory? (done : files.makeDirectory? path = some made) :
    made.isDirectory path = true := by
  have grows := grows_makeDirectory? done
  rcases makeDirectory?_ok done with ⟨already, rfl⟩ | ⟨place, located, absent, rfl⟩
  · exact already
  · have free := isDirectoryAt_of_absent absent
    rw [isDirectory_iff]
    refine ⟨place, grows.keeps.place? located, ?_⟩
    rw [isDirectoryAt_iff, entryAt?_insert free, if_pos rfl]

theorem grows_makeEach (files : FileStore) (paths : List Path) :
    files.Grows (files.makeEach paths).2 := by
  induction paths generalizing files with
  | nil => exact .refl files
  | cons path rest ih =>
      rw [makeEach]
      cases done : files.makeDirectory? path with
      | none => exact .refl files
      | some made => exact (grows_makeDirectory? done).trans (ih made)

theorem isDirectory_of_makeEach {paths : List Path} (done : (files.makeEach paths).1 = true) :
    ∀ path ∈ paths, (files.makeEach paths).2.isDirectory path = true := by
  induction paths generalizing files with
  | nil => exact fun _ absent => absurd absent List.not_mem_nil
  | cons path rest ih =>
      rw [makeEach] at done ⊢
      cases first : files.makeDirectory? path with
      | none =>
          rw [first] at done
          cases done
      | some made =>
          rw [first] at done
          refine List.forall_mem_cons.mpr ⟨?_, ih done⟩
          exact (grows_makeEach made rest).keeps.isDirectory (isDirectory_of_makeDirectory? first)

theorem makeEach_of_isDirectory {paths : List Path}
    (there : ∀ path ∈ paths, files.isDirectory path = true) :
    files.makeEach paths = (true, files) := by
  induction paths with
  | nil => rfl
  | cons path rest ih =>
      obtain ⟨first, others⟩ := List.forall_mem_cons.mp there
      have same : files.makeDirectory? path = some files := by
        rw [makeDirectory?, if_pos first]
        rfl
      rw [makeEach, same]
      exact ih others

theorem grows_makeDirectories (files : FileStore) (path : Path) :
    files.Grows (files.makeDirectories path).2 := by
  unfold makeDirectories
  split
  · exact .refl files
  · split
    · exact grows_makeEach files _
    · exact .refl files

/-- Directories that were made once are there whenever they are asked for again. -/
theorem makeDirectories_again (done : (files.makeDirectories path).1 = true)
    (keeps : (files.makeDirectories path).2.Keeps after) :
    after.makeDirectories path = (true, after) := by
  unfold makeDirectories at done keeps ⊢
  split
  · rfl
  · next named =>
    rw [if_neg named] at done keeps
    split
    · next usable =>
      rw [if_pos usable] at done keeps
      exact makeEach_of_isDirectory fun ancestor member =>
        keeps.isDirectory (isDirectory_of_makeEach done ancestor member)
    · next unusable =>
      rw [if_neg unusable] at done
      cases done

theorem grows_prepared (files : FileStore) (path : Path) :
    files.Grows (files.prepared path).2 := by
  unfold prepared
  cases path.parent? with
  | none => exact .refl files
  | some parent => exact grows_makeDirectories files parent

theorem prepared_again (done : (files.prepared path).1 = true)
    (keeps : (files.prepared path).2.Keeps after) : after.prepared path = (true, after) := by
  unfold prepared at done keeps ⊢
  cases front : path.parent? with
  | none => rfl
  | some parent =>
      rw [front] at done keeps
      exact makeDirectories_again done keeps

/-! ## Files -/

theorem keeps_insert {place : Place} (free : files.isDirectoryAt place = false)
    (contents : Contents) :
    files.Keeps { files with entries := files.entries.insert place (.file contents) } where
  workingDirectory := rfl
  directories := by
    intro other directory
    have elsewhere : other ≠ place := by
      rintro rfl
      rw [free] at directory
      cases directory
    rw [isDirectoryAt, entryAt?_insert free, if_neg elsewhere]
    exact directory

theorem writeThrough_ok (done : files.writeThrough path contents = (true, written)) :
    (files.prepared path).1 = true ∧
      (files.prepared path).2.write? path contents = some written := by
  rw [writeThrough_eq] at done
  split at done
  · next made =>
    refine ⟨made, ?_⟩
    cases outcome : (files.prepared path).2.write? path contents with
    | none =>
        rw [outcome] at done
        cases done
    | some after =>
        rw [outcome] at done
        cases done
        rfl
  · cases done

theorem keeps_writeThrough (files : FileStore) (path : Path) (contents : Contents) :
    files.Keeps (files.writeThrough path contents).2 := by
  have made := (grows_prepared files path).keeps
  rw [writeThrough_eq]
  split
  · cases outcome : (files.prepared path).2.write? path contents with
    | none => exact made
    | some written =>
        obtain ⟨place, -, -, free, -, rfl⟩ := write?_ok outcome
        exact made.trans (keeps_insert free contents)
  · exact made

theorem found?_of_place? {place : Place} (located : files.place? path = some place) :
    files.found? path = (files.entryAt? place).bind fun entry =>
      if path.endsWithSlash && entry != .directory then none else some entry := by
  rw [found?, located]
  rfl

theorem found?_of_writeThrough_apart {other : Path} {entry : FileEntry}
    (done : files.writeThrough other contents = (true, written))
    (found : files.found? path = some entry) (apart : path.Apart other) :
    written.found? path = some entry := by
  obtain ⟨name, otherName, ends, otherEnds, differs⟩ := apart
  obtain ⟨-, outcome⟩ := writeThrough_ok done
  obtain ⟨target, aimed, -, free, -, rfl⟩ := write?_ok outcome
  have grows := grows_prepared files other
  cases located : files.place? path with
  | none =>
      rw [found?, located] at found
      cases found
  | some place =>
      have elsewhere : place ≠ target := by
        rintro rfl
        have same := getLast?_place? located ends
        rw [getLast?_place? aimed otherEnds] at same
        exact differs (Option.some.inj same).symm
      have kept := (grows.keeps.trans (keeps_insert free contents)).place? located
      rw [found?_of_place? located, Option.bind_eq_some_iff] at found
      obtain ⟨stands, present, asked⟩ := found
      rw [found?_of_place? kept, entryAt?_insert free, if_neg elsewhere,
        grows.entries place stands present]
      exact asked

/-- A file stands at the path, and it can be written again without a new directory. -/
structure Ready (files : FileStore) (path : Path) : Prop where
  prepared : files.prepared path = (true, files)
  file : path.endsWithSlash = false
  standing : ∃ place contents, files.place? path = some place ∧
    files.entryAt? place = some (.file contents) ∧ files.isDirectoryAt place.dropLast = true

theorem ready_of_writeThrough (done : files.writeThrough path contents = (true, written)) :
    written.Ready path := by
  obtain ⟨made, outcome⟩ := writeThrough_ok done
  obtain ⟨place, located, file, free, front, rfl⟩ := write?_ok outcome
  have keeps := keeps_insert free contents
  constructor
  case prepared => exact prepared_again made keeps
  case file => exact file
  case standing =>
    refine ⟨place, contents, keeps.place? located, ?_, keeps.directories _ front⟩
    rw [entryAt?_insert free, if_pos rfl]

theorem Ready.writeThrough {other : Path} (ready : files.Ready path)
    (done : files.writeThrough other contents = (true, written)) : written.Ready path := by
  obtain ⟨-, outcome⟩ := writeThrough_ok done
  obtain ⟨target, -, -, free, -, rfl⟩ := write?_ok outcome
  have grows := grows_prepared files other
  have keeps := grows.keeps.trans (keeps_insert free contents)
  obtain ⟨place, before, located, present, front⟩ := ready.standing
  have start : (files.prepared path).1 = true := by rw [ready.prepared]
  constructor
  case prepared =>
    refine prepared_again start ?_
    rw [ready.prepared]
    exact keeps
  case file => exact ready.file
  case standing =>
    by_cases here : place = target
    · refine ⟨place, contents, keeps.place? located, ?_, keeps.directories _ front⟩
      rw [entryAt?_insert free, if_pos here]
    · refine ⟨place, before, keeps.place? located, ?_, keeps.directories _ front⟩
      rw [entryAt?_insert free, if_neg here]
      exact grows.entries place _ present

theorem Ready.exists_writeThrough (ready : files.Ready path) (contents : Contents) :
    ∃ written, files.writeThrough path contents = (true, written) := by
  obtain ⟨place, before, located, present, front⟩ := ready.standing
  have free : files.isDirectoryAt place = false := by rw [isDirectoryAt, present]; rfl
  refine ⟨{ files with entries := files.entries.insert place (.file contents) }, ?_⟩
  have outcome : files.write? path contents =
      some { files with entries := files.entries.insert place (.file contents) } := by
    rw [write?, located]
    simp [ready.file, free, front]
  rw [writeThrough_eq, ready.prepared, if_pos rfl, outcome]

end Changes

end FileStore

end Retrieval
