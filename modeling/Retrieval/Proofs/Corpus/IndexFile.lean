import Retrieval.Corpus.Basic
import Retrieval.Proofs.Path.Components

/-!
# The places of snapshot files

The name of a snapshot file begins with the name of its index, so the files of
two indices are apart.  It takes the place of the last name of the storage file
in the working directory.  A storage file without a name leaves the last name of
the working directory itself there, and the snapshot stands beside the directory
(`indexFiles_within_iff`).
-/

namespace Retrieval

namespace Corpus

/-! ## Names -/

/-- The name of the snapshot file of an index, where the storage file has some path. -/
def indexFileName (indexName : String) (base : Path) : String :=
  indexName ++ "_" ++ base.fileName?.getD IndexOptions.defaultFileName

theorem indexFile_eq (workingDirectory : Path) (indexName : String) (storage : Path) :
    indexFile workingDirectory indexName storage =
      (workingDirectory.join storage).withFileName
        (indexFileName indexName (workingDirectory.join storage)) :=
  rfl

theorem head?_indexFileName {indexName : String} {letter : Char}
    (starts : indexName.toList.head? = some letter) (base : Path) :
    (indexFileName indexName base).toList.head? = some letter := by
  rw [indexFileName, String.toList_append, String.toList_append, List.append_assoc,
    List.head?_append, starts]
  rfl

theorem head?_chunkFileName (base : Path) :
    (indexFileName chunkIndexName base).toList.head? = some 'c' :=
  head?_indexFileName rfl base

theorem head?_entityFileName (base : Path) :
    (indexFileName entityIndexName base).toList.head? = some 'e' :=
  head?_indexFileName rfl base

theorem slash_not_mem_indexFileName {indexName : String} (plain : '/' ∉ indexName.toList)
    (base : Path) : '/' ∉ (indexFileName indexName base).toList := by
  have oldPlain : '/' ∉ (base.fileName?.getD IndexOptions.defaultFileName).toList := by
    cases named : base.fileName? with
    | none => decide
    | some name => exact Path.slash_not_mem_fileName? named
  rw [indexFileName, String.toList_append, String.toList_append, List.mem_append, List.mem_append]
  rintro ((inName | inLine) | inOld)
  · exact plain inName
  · exact absurd inLine (by decide)
  · exact oldPlain inOld

def indexNames : List String := [chunkIndexName, entityIndexName]

theorem chunkIndexName_mem : chunkIndexName ∈ indexNames := List.mem_cons_self

theorem entityIndexName_mem : entityIndexName ∈ indexNames :=
  List.mem_cons_of_mem _ List.mem_cons_self

theorem isName_indexFileName {indexName : String} (listed : indexName ∈ indexNames)
    (base : Path) : Path.IsName (indexFileName indexName base) := by
  rcases List.mem_pair.mp listed with rfl | rfl
  · exact Path.isName_of_head? (head?_chunkFileName base) (by decide)
      (slash_not_mem_indexFileName (by decide) base)
  · exact Path.isName_of_head? (head?_entityFileName base) (by decide)
      (slash_not_mem_indexFileName (by decide) base)

theorem indexFileName_ne (base : Path) :
    indexFileName chunkIndexName base ≠ indexFileName entityIndexName base := by
  intro same
  have first := head?_chunkFileName base
  rw [same, head?_entityFileName base] at first
  exact absurd first (by decide)

/-! ## Directories -/

theorem components_indexFile_of_nameless {workingDirectory storage : Path}
    (nameless : (workingDirectory.join storage).Nameless) {indexName : String}
    (listed : indexName ∈ indexNames) :
    (indexFile workingDirectory indexName storage).components =
      (workingDirectory.join storage).components ++
        [.name (indexFileName indexName (workingDirectory.join storage))] := by
  rw [indexFile_eq]
  exact Path.components_withFileName_of_nameless nameless (isName_indexFileName listed _)

theorem components_indexFile_of_named {workingDirectory storage : Path}
    {front : List Path.Component} {old : String}
    (ends : (workingDirectory.join storage).components = front ++ [.name old])
    {indexName : String} (listed : indexName ∈ indexNames) :
    (indexFile workingDirectory indexName storage).components =
      front ++ [.name (indexFileName indexName (workingDirectory.join storage))] := by
  rw [indexFile_eq]
  exact Path.components_withFileName_of_named ends (isName_indexFileName listed _)

theorem components_indexFiles_ne (workingDirectory storage : Path) :
    (indexFile workingDirectory chunkIndexName storage).components ≠
      (indexFile workingDirectory entityIndexName storage).components := by
  intro same
  have last := congrArg List.getLast? same
  rw [indexFile_eq, indexFile_eq,
    Path.getLast?_components_withFileName (isName_indexFileName chunkIndexName_mem _),
    Path.getLast?_components_withFileName (isName_indexFileName entityIndexName_mem _)] at last
  exact indexFileName_ne _ (Path.Component.name.inj (Option.some.inj last))

section Relative

variable {workingDirectory storage : Path} (relative : storage.isAbsolute = false)

include relative

theorem components_of_relative :
    storage.components = Path.steps storage.pieces ∨
      storage.components = .here :: Path.steps storage.pieces := by
  change Path.startOf storage.text.toList ++ _ = _ ∨ Path.startOf storage.text.toList ++ _ = _
  rcases Path.startOf_of_relative relative with start | start
  · exact .inl (congrArg (· ++ _) start)
  · exact .inr (congrArg (· ++ _) start)

theorem name_mem_steps {name : String} (named : .name name ∈ storage.components) :
    .name name ∈ Path.steps storage.pieces := by
  rcases components_of_relative relative with whole | whole
  · rwa [whole] at named
  · rw [whole] at named
    rcases List.mem_cons.mp named with other | inside
    · cases other
    · exact inside

/-- A storage file with a name leads down from the working directory to its last name. -/
theorem exists_components_join_of_named (workingDirectory : Path)
    (down : .above ∉ storage.components) {name : String}
    (named : .name name ∈ storage.components) :
    ∃ front old, (workingDirectory.join storage).components =
      workingDirectory.components ++ (front ++ [.name old]) ∧ .above ∉ front := by
  obtain none | ⟨init, last, split⟩ := List.eq_nil_or_concat' (Path.steps storage.pieces)
  · exact absurd (name_mem_steps relative named) (none ▸ List.not_mem_nil)
  · have inside : ∀ step ∈ Path.steps storage.pieces, step ∈ storage.components :=
      fun _ member => List.mem_append_right _ member
    rw [split] at inside
    obtain ⟨old, rfl⟩ : ∃ old, last = .name old := by
      refine (Path.mem_steps (split ▸ List.mem_concat_self)).resolve_left ?_
      rintro rfl
      exact down (inside _ List.mem_concat_self)
    refine ⟨(if workingDirectory.text = "" then Path.startOf storage.text.toList else []) ++ init,
      old, ?_, ?_⟩
    · rw [Path.components_join relative, split, List.append_assoc]
    · intro up
      rcases List.mem_append.mp up with first | later
      · split at first
        · exact down (List.mem_append_left _ first)
        · cases first
      · exact down (inside _ (List.mem_append_left _ later))

theorem components_join_of_unnamed (workingDirectory : Path)
    (down : .above ∉ storage.components) (unnamed : ∀ name, .name name ∉ storage.components) :
    (workingDirectory.join storage).components =
      workingDirectory.components ++
        if workingDirectory.text = "" then Path.startOf storage.text.toList else [] := by
  have none : Path.steps storage.pieces = [] := by
    refine List.eq_nil_iff_forall_not_mem.mpr fun step member => ?_
    have inside : step ∈ storage.components := List.mem_append_right _ member
    rcases Path.mem_steps member with rfl | ⟨name, rfl⟩
    · exact down inside
    · exact unnamed name inside
  rw [Path.components_join relative, none, List.append_nil]

theorem nameless_join_of_unnamed {workingDirectory : Path} (nameless : workingDirectory.Nameless)
    (down : .above ∉ storage.components) (unnamed : ∀ name, .name name ∉ storage.components) :
    (workingDirectory.join storage).Nameless := by
  intro name
  rw [components_join_of_unnamed relative workingDirectory down unnamed]
  split
  · next empty =>
    rw [Path.components_of_empty empty, List.nil_append]
    rcases Path.startOf_of_relative relative with start | start <;> rw [start] <;> exact nofun
  · rw [List.append_nil]
    exact nameless name

theorem within_indexFile_of_named (workingDirectory : Path) (down : .above ∉ storage.components)
    {name : String} (named : .name name ∈ storage.components) {indexName : String}
    (listed : indexName ∈ indexNames) :
    (indexFile workingDirectory indexName storage).Within workingDirectory := by
  obtain ⟨front, old, ends, forth⟩ :=
    exists_components_join_of_named relative workingDirectory down named
  rw [← List.append_assoc] at ends
  have whole := components_indexFile_of_named ends listed
  rw [List.append_assoc] at whole
  exact ⟨_, whole, by simp, by simpa using forth⟩

theorem within_indexFile_of_nameless {workingDirectory : Path}
    (nameless : workingDirectory.Nameless) (down : .above ∉ storage.components)
    (unnamed : ∀ name, .name name ∉ storage.components) {indexName : String}
    (listed : indexName ∈ indexNames) :
    (indexFile workingDirectory indexName storage).Within workingDirectory := by
  have whole := components_indexFile_of_nameless
    (nameless_join_of_unnamed relative nameless down unnamed) listed
  rw [components_join_of_unnamed relative workingDirectory down unnamed, List.append_assoc] at whole
  refine ⟨_, whole, by simp, ?_⟩
  rcases Path.startOf_of_relative relative with start | start <;> simp [start]

/-- Without a name in the storage file the last name of the working directory is replaced. -/
theorem not_within_indexFile {workingDirectory : Path} (named : ¬ workingDirectory.Nameless)
    (down : .above ∉ storage.components) (unnamed : ∀ name, .name name ∉ storage.components)
    {indexName : String} (listed : indexName ∈ indexNames) :
    ¬ (indexFile workingDirectory indexName storage).Within workingDirectory := by
  rcases workingDirectory.components_cases with ⟨-, nameless⟩ | ⟨old, parent, -, -, split⟩
  · exact absurd nameless named
  · have filled : workingDirectory.text ≠ "" := by
      intro empty
      rw [Path.components_of_empty empty] at split
      simp at split
    have ends := components_join_of_unnamed relative workingDirectory down unnamed
    rw [if_neg filled, List.append_nil, split] at ends
    rintro ⟨rest, whole, further, -⟩
    rw [components_indexFile_of_named ends listed, split] at whole
    have length := congrArg List.length whole
    rw [List.length_append, List.length_append, List.length_append] at length
    exact further (List.length_eq_zero_iff.mp (by simpa using length.symm))

end Relative

/-- The files of the two indices are apart.  Those of a relative storage file are in the working
directory exactly when the storage file has a name, or the working directory ends in none. -/
theorem indexFiles_within_iff {workingDirectory storage : Path}
    (down : .above ∉ storage.components) :
    (indexFile workingDirectory chunkIndexName storage).components ≠
      (indexFile workingDirectory entityIndexName storage).components ∧
    (storage.isAbsolute = false →
      ((∀ indexName ∈ indexNames,
          (indexFile workingDirectory indexName storage).Within workingDirectory) ↔
        (∃ name, .name name ∈ storage.components) ∨ workingDirectory.Nameless)) := by
  refine ⟨components_indexFiles_ne workingDirectory storage, fun relative => ?_⟩
  constructor
  · intro within
    by_contra neither
    rw [not_or, not_exists] at neither
    obtain ⟨unnamed, named⟩ := neither
    exact not_within_indexFile relative named down unnamed chunkIndexName_mem
      (within chunkIndexName chunkIndexName_mem)
  · intro either indexName listed
    by_cases some : ∃ name, .name name ∈ storage.components
    · obtain ⟨name, named⟩ := some
      exact within_indexFile_of_named relative workingDirectory down named listed
    · exact within_indexFile_of_nameless relative (either.resolve_left some) down
        (not_exists.mp some) listed

theorem indexFiles_within_iff_of_nested :
    .above ∉ Path.components ⟨"a/v.json"⟩ ∧ Path.isAbsolute ⟨"a/v.json"⟩ = false ∧
      ∀ indexName ∈ indexNames, (indexFile ⟨"work"⟩ indexName ⟨"a/v.json"⟩).Within ⟨"work"⟩ := by
  have down : .above ∉ Path.components ⟨"a/v.json"⟩ := by decide +kernel
  have relative : Path.isAbsolute ⟨"a/v.json"⟩ = false := by decide +kernel
  have named : .name "v.json" ∈ Path.components ⟨"a/v.json"⟩ := by decide +kernel
  exact ⟨down, relative, ((indexFiles_within_iff down).2 relative).mpr (.inl ⟨_, named⟩)⟩

/-- With an empty storage file the snapshot is written beside the working directory. -/
theorem indexFile_may_leave_directory :
    .above ∉ Path.components ⟨""⟩ ∧ Path.isAbsolute ⟨""⟩ = false ∧
      indexFile ⟨"work"⟩ chunkIndexName ⟨""⟩ = ⟨"chunks_work"⟩ ∧
      ¬ (indexFile ⟨"work"⟩ chunkIndexName ⟨""⟩).Within ⟨"work"⟩ := by
  have beside : indexFile ⟨"work"⟩ chunkIndexName ⟨""⟩ = ⟨"chunks_work"⟩ := by decide +kernel
  have outside : Path.components ⟨"chunks_work"⟩ = [.name "chunks_work"] := by decide +kernel
  have directory : Path.components ⟨"work"⟩ = [.name "work"] := by decide +kernel
  refine ⟨by decide +kernel, by decide +kernel, beside, ?_⟩
  rw [beside]
  rintro ⟨rest, whole, -⟩
  rw [outside, directory] at whole
  simp at whole

end Corpus

end Retrieval
