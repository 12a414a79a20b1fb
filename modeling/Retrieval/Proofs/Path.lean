import Mathlib.Data.List.TakeWhile
import Retrieval.Path
import Retrieval.Proofs.Words

/-!
# The last name of a path

A name without a slash that is joined to a path, or put in the place of its last
name, is the last piece of the result.
-/

namespace Retrieval

namespace Path

/-- The last piece of the path is a name, and this one. -/
structure EndsIn (path : Path) (name : String) : Prop where
  last : path.pieces.getLast? = some name
  down : name ≠ "." ∧ name ≠ ".."

/-- The paths end in different names. -/
def Apart (first second : Path) : Prop :=
  ∃ name other, first.EndsIn name ∧ second.EndsIn other ∧ name ≠ other

structure IsName (name : String) : Prop where
  filled : name ≠ ""
  plain : '/' ∉ name.toList
  down : name ≠ "." ∧ name ≠ ".."

variable {name : String}

theorem isName_of_head? {letter : Char} (first : name.toList.head? = some letter)
    (down : letter ≠ '.') (plain : '/' ∉ name.toList) : IsName name := by
  have other {dotted : String} (dot : dotted.toList.head? = some '.') : name ≠ dotted := by
    rintro rfl
    exact down (Option.some.inj (first.symm.trans dot))
  refine ⟨?_, plain, other rfl, other rfl⟩
  rintro rfl
  cases first

theorem pieces_of_name (filled : name ≠ "") (plain : '/' ∉ name.toList) :
    pieces ⟨name⟩ = [name] := by
  have runs : Split.runs (· == '/') name.toList = [name.toList] := by
    refine Split.runs_of_forall ?_ ?_
    · exact fun none => filled (String.toList_eq_nil_iff.mp none)
    · intro character member
      refine beq_false_of_ne ?_
      rintro rfl
      exact plain member
  rw [pieces, runs, List.map_singleton, String.ofList_toList]

theorem getLast?_pieces_append (filled : name ≠ "") (plain : '/' ∉ name.toList) {front : String}
    (ends : front = "" ∨ front.toList.getLast? = some '/') :
    (pieces ⟨front ++ name⟩).getLast? = some name := by
  have only := pieces_of_name filled plain
  rcases ends with rfl | slash
  · rw [String.empty_append, only]
    rfl
  · obtain ⟨before, split⟩ := List.getLast?_eq_some_iff.mp slash
    have parts : (front ++ name).toList = before ++ '/' :: name.toList := by
      rw [String.toList_append, split, List.append_assoc]
      rfl
    unfold pieces at only ⊢
    rw [parts, Split.runs_append_cons rfl, List.map_append, only, List.getLast?_concat]

theorem getLast?_pieces_join (filled : name ≠ "") (plain : '/' ∉ name.toList) (front : Path) :
    (front.join ⟨name⟩).pieces.getLast? = some name := by
  have relative : isAbsolute ⟨name⟩ = false := by
    refine beq_false_of_ne fun starts => plain ?_
    exact List.mem_of_mem_head? starts
  unfold join
  rw [relative, if_neg Bool.false_ne_true]
  split
  · next ends =>
    refine getLast?_pieces_append filled plain (ends.imp_right ?_)
    exact fun slash => beq_iff_eq.mp slash
  · refine getLast?_pieces_append filled plain (.inr ?_)
    rw [String.toList_append]
    exact List.getLast?_concat

theorem getLast?_pieces_withFileName (filled : name ≠ "") (plain : '/' ∉ name.toList)
    (path : Path) : (path.withFileName name).pieces.getLast? = some name := by
  unfold withFileName
  split
  · exact getLast?_pieces_join filled plain _
  · exact getLast?_pieces_join filled plain path

theorem slash_not_mem_fileName? {path : Path} (named : path.fileName? = some name) :
    '/' ∉ name.toList := by
  unfold fileName? at named
  dsimp only at named
  split at named
  · cases named
  · cases named
    rw [String.toList_ofList, List.mem_reverse]
    intro member
    have other := List.mem_takeWhile_imp member
    rw [bne_self_eq_false] at other
    cases other

end Path

end Retrieval
