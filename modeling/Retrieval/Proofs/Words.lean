import Mathlib.Data.List.DropRight
import Retrieval.Text.Blank

/-!
# Words

A separator ends the run before it and is in no run.  So the blanks at the ends
of a text are in no word: a trimmed text has the words of the text, and it starts
as the first of them does.
-/

namespace Retrieval

namespace Split

variable {α : Type} {separates : α → Bool}

theorem runs_append_cons {separator : α} (stands : separates separator = true)
    (front back : List α) :
    runs separates (front ++ separator :: back) = runs separates front ++ runs separates back := by
  rw [runs, List.splitOnP_append_cons front back stands, List.filter_append]
  rfl

theorem runs_of_forall {items : List α} (filled : items ≠ [])
    (plain : ∀ item ∈ items, separates item = false) : runs separates items = [items] := by
  rw [runs, List.splitOnP_eq_singleton plain]
  refine List.filter_eq_self.mpr ?_
  simpa using filled

/-- The longest stretches without a separator, read off the list from its start. -/
inductive LongestRuns (separates : α → Bool) : List α → List (List α) → Prop where
  | nil : LongestRuns separates [] []
  | separator {first : α} {rest : List α} {found : List (List α)}
      (stands : separates first = true) (others : LongestRuns separates rest found) :
      LongestRuns separates (first :: rest) found
  | run {items rest : List α} {found : List (List α)} (filled : items ≠ [])
      (plain : ∀ item ∈ items, separates item = false)
      (ends : ∀ next ∈ rest.head?, separates next = true)
      (others : LongestRuns separates rest found) :
      LongestRuns separates (items ++ rest) (items :: found)

theorem LongestRuns.runs_eq {items : List α} {found : List (List α)}
    (longest : LongestRuns separates items found) : runs separates items = found := by
  induction longest with
  | nil => rfl
  | @separator first rest found stands _ ih =>
      rw [← ih]
      exact runs_append_cons stands [] rest
  | @run items rest found filled plain ends _ ih =>
      rw [← ih, ← List.singleton_append, ← runs_of_forall filled plain]
      cases rest with
      | nil => rw [runs_nil, List.append_nil, List.append_nil]
      | cons next rest =>
          have stands := ends next rfl
          rw [runs_append_cons stands]
          exact congrArg _ (runs_append_cons stands [] rest).symm

theorem exists_longestRuns (items : List α) : ∃ found, LongestRuns separates items found := by
  induction items with
  | nil => exact ⟨[], .nil⟩
  | cons first rest ih =>
      obtain ⟨found, longest⟩ := ih
      cases stands : separates first with
      | true => exact ⟨found, .separator stands longest⟩
      | false =>
          have alone : ∀ item ∈ [first], separates item = false :=
            List.forall_mem_singleton.mpr stands
          cases longest with
          | nil =>
              exact ⟨[[first]], .run (List.cons_ne_nil _ _) alone (fun _ none => nomatch none) .nil⟩
          | separator ends others =>
              refine ⟨[first] :: found, .run (List.cons_ne_nil _ _) alone ?_
                (.separator ends others)⟩
              rintro next ⟨⟩
              exact ends
          | @run items rest found _ plain ends others =>
              exact ⟨(first :: items) :: found,
                .run (List.cons_ne_nil _ _) (List.forall_mem_cons.mpr ⟨stands, plain⟩) ends others⟩

theorem longestRuns_runs (items : List α) : LongestRuns separates items (runs separates items) := by
  obtain ⟨found, longest⟩ := exists_longestRuns items
  rw [longest.runs_eq]
  exact longest

theorem LongestRuns.plain_of_mem {items run : List α} {found : List (List α)}
    (longest : LongestRuns separates items found) (member : run ∈ found) :
    ∀ item ∈ run, separates item = false := by
  induction longest with
  | nil => cases member
  | separator _ _ ih => exact ih member
  | run _ plain _ _ ih =>
      rcases List.mem_cons.mp member with rfl | later
      · exact plain
      · exact ih later

theorem runs_intercalate {separator : α} (stands : separates separator = true)
    {pieces : List (List α)} (filled : ∀ piece ∈ pieces, piece ≠ [])
    (plain : ∀ piece ∈ pieces, ∀ item ∈ piece, separates item = false) :
    runs separates ([separator].intercalate pieces) = pieces := by
  induction pieces with
  | nil => rfl
  | cons piece rest ih =>
      have alone : runs separates piece = [piece] :=
        runs_of_forall (filled piece List.mem_cons_self) (plain piece List.mem_cons_self)
      have others := ih (fun other later => filled other (List.mem_cons_of_mem _ later))
        (fun other later => plain other (List.mem_cons_of_mem _ later))
      cases rest with
      | nil => rw [List.intercalate_singleton, alone]
      | cons next rest =>
          rw [List.intercalate_cons_cons, List.append_assoc, List.singleton_append,
            runs_append_cons stands, alone, others, List.singleton_append]

theorem runs_dropWhile (items : List α) :
    runs separates (items.dropWhile separates) = runs separates items := by
  induction items with
  | nil => rfl
  | cons first rest ih =>
      rw [List.dropWhile_cons]
      split
      · next stands =>
        rw [ih]
        exact (runs_append_cons stands [] rest).symm
      · rfl

theorem runs_rdropWhile (items : List α) :
    runs separates (items.rdropWhile separates) = runs separates items := by
  induction items using List.reverseRecOn with
  | nil => rfl
  | append_singleton front last ih =>
      rw [List.rdropWhile_concat]
      split
      · next stands =>
        rw [ih, runs_append_cons stands, runs_nil, List.append_nil]
      · rfl

theorem head?_runs_cons {first : α} (plain : separates first = false) (rest : List α) :
    (runs separates (first :: rest)).head?.bind List.head? = some first := by
  rw [runs, List.splitOnP_cons_eq_if_modifyHead, if_neg (Bool.eq_false_iff.mp plain)]
  obtain ⟨piece, pieces, split⟩ := List.exists_cons_of_ne_nil (List.splitOnP_ne_nil separates rest)
  rw [split]
  rfl

theorem head?_dropWhile (items : List α) :
    (items.dropWhile separates).head? = (runs separates items).head?.bind List.head? := by
  induction items with
  | nil => rfl
  | cons first rest ih =>
      rw [List.dropWhile_cons]
      split
      · next stands =>
        rw [ih]
        exact congrArg (·.head?.bind List.head?) (runs_append_cons stands [] rest).symm
      · next stays =>
        exact (head?_runs_cons (Bool.eq_false_iff.mpr stays) rest).symm

theorem head?_rdropWhile {items : List α} (plain : ∀ first ∈ items.head?, separates first = false) :
    (items.rdropWhile separates).head? = items.head? := by
  cases items with
  | nil => rfl
  | cons first rest =>
      have kept : (first :: rest).rdropWhile separates ≠ [] := by
        intro gone
        have stands := List.rdropWhile_eq_nil_iff.mp gone first List.mem_cons_self
        rw [plain first rfl] at stands
        cases stands
      obtain ⟨back, whole⟩ := List.rdropWhile_prefix separates (l := first :: rest)
      exact (List.head?_append_of_ne_nil _ kept).symm.trans (congrArg List.head? whole)

end Split

namespace Text

theorem trim_eq (text : String) :
    trim text = String.ofList ((text.toList.dropWhile isBlank).rdropWhile isBlank) := rfl

theorem words_trim (text : String) : words (trim text) = words text := by
  rw [words, trim_eq, String.toList_ofList, Split.runs_rdropWhile, Split.runs_dropWhile, words]

theorem head?_trim (text : String) :
    (trim text).toList.head? = (words text).head?.bind fun word => word.toList.head? := by
  have plain : ∀ first ∈ (text.toList.dropWhile isBlank).head?, isBlank first = false := by
    intro first leads
    have head := List.head?_dropWhile_not isBlank text.toList
    rw [Option.mem_def.mp leads] at head
    simpa using head
  rw [trim_eq, String.toList_ofList, Split.head?_rdropWhile plain, Split.head?_dropWhile, words,
    List.head?_map, Option.bind_map]
  congr 1
  funext word
  exact congrArg List.head? String.toList_ofList.symm

theorem words_of_allBlank {text : String} (blank : allBlank text = true) : words text = [] := by
  have gone : text.toList.dropWhile isBlank = [] :=
    List.dropWhile_eq_nil_iff.mpr (List.all_eq_true.mp blank)
  rw [words, ← Split.runs_dropWhile, gone]
  rfl

end Text

end Retrieval
