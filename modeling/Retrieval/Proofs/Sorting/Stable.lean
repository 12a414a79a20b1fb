import Retrieval.Proofs.Sorting.Runs

/-!
# The whole sort

Around a pivot the smaller items come first.  Where none of them is smaller, or the
pivot is the floor of all of them, the equals of the pivot do.  Either way two parts
are left, and what is sorted in both is sorted.
-/

namespace Retrieval

namespace Sorting

variable {α : Type} {precedes : α → α → Bool} {items before behind : List α} {pivot : α}

theorem eq_of_splitAt {place : Nat} (split : items.splitAt place = (before, pivot :: behind)) :
    items = before ++ pivot :: behind := by
  rw [List.splitAt_eq, Prod.mk.injEq] at split
  rw [← split.1, ← split.2, List.take_append_drop]

theorem split_perm (before behind : List α) (pivot : α) (keeps : α → Bool) :
    (before.filter keeps ++ pivot :: behind.filter keeps ++
      (before ++ behind).filter fun item => !keeps item).Perm (before ++ pivot :: behind) := by
  rw [List.filter_append]
  refine (append_exchange (before.filter keeps) (pivot :: behind.filter keeps) _ _).trans ?_
  exact (List.filter_append_perm keeps before).append
    ((List.filter_append_perm keeps behind).cons pivot)

theorem byPivots?_perm (limit : Nat) (floor : Option α) (items : List α) :
    ∀ sorted, byPivots? precedes limit floor items = some sorted → sorted.Perm items := by
  fun_induction byPivots? precedes limit floor items with
  | case1 => exact fun _ given => (small?_sorts precedes).perm given
  | case2 floor items _ limit before pivot behind split others smaller _ ih =>
      intro sorted given
      obtain ⟨larger, done, given⟩ := Option.bind_eq_some_iff.mp given
      obtain rfl := Option.some.inj given
      rw [eq_of_splitAt split]
      exact ((ih larger done).append_left _).trans
        (split_perm before behind pivot (precedes · pivot))
  | case3 floor items _ limit before pivot behind split others smaller _ ihLarger ihSmaller =>
      intro sorted given
      obtain ⟨larger, largerDone, given⟩ := Option.bind_eq_some_iff.mp given
      obtain ⟨less, lessDone, given⟩ := Option.bind_eq_some_iff.mp given
      obtain rfl := Option.some.inj given
      rw [eq_of_splitAt split]
      refine ((ihSmaller less lessDone).append (ihLarger larger largerDone)).trans ?_
      exact List.perm_append_comm.trans (split_perm before behind pivot (precedes pivot))
  | case4 => exact fun _ given => (byRuns?_sorts (small?_sorts precedes) true).perm given

section Pivot

theorem filter_subset_split (keeps : α → Bool) :
    before.filter keeps ++ pivot :: behind.filter keeps ⊆ before ++ pivot :: behind :=
  ((List.filter_sublist).append ((List.filter_sublist).cons_cons pivot)).subset

theorem mem_filter_split (keeps : α → Bool) (reflexive : keeps pivot = true) {item : α}
    (member : item ∈ before.filter keeps ++ pivot :: behind.filter keeps) : keeps item = true := by
  rcases List.mem_append.mp member with inBefore | inBehind
  · exact (List.mem_filter.mp inBefore).2
  · rcases List.mem_cons.mp inBehind with rfl | inside
    · exact reflexive
    · exact (List.mem_filter.mp inside).2

theorem equals_inOrder {larger : List α}
    (consistent : Consistent precedes (before ++ pivot :: behind))
    (least : ∀ item ∈ before ++ pivot :: behind, precedes pivot item = true)
    (inside : larger ⊆ before ++ pivot :: behind) (ordered : InOrder precedes larger) :
    InOrder precedes
      (before.filter (precedes · pivot) ++ pivot :: behind.filter (precedes · pivot) ++
        larger) := by
  have pivotInside : pivot ∈ before ++ pivot :: behind := by simp
  have through {first second : α}
      (left : first ∈ before.filter (precedes · pivot) ++ pivot :: behind.filter (precedes · pivot))
      (right : second ∈ before ++ pivot :: behind) : precedes first second = true :=
    consistent.trans first (filter_subset_split _ left) pivot pivotInside second right
      (mem_filter_split (precedes · pivot) (consistent.refl pivotInside) left)
      (least second right)
  refine List.pairwise_append.mpr ⟨?_, ordered, fun first left second right =>
    through left (inside right)⟩
  exact List.pairwise_of_forall_mem_list fun first left second right =>
    through left (filter_subset_split _ right)

theorem smaller_append_inOrder {smaller larger : List α}
    (consistent : Consistent precedes (before ++ pivot :: behind))
    (smallerPerm : smaller.Perm ((before ++ behind).filter fun item => !precedes pivot item))
    (largerPerm : larger.Perm
      (before.filter (precedes pivot) ++ pivot :: behind.filter (precedes pivot)))
    (smallerOrder : InOrder precedes smaller) (largerOrder : InOrder precedes larger) :
    InOrder precedes (smaller ++ larger) := by
  have pivotInside : pivot ∈ before ++ pivot :: behind := by simp
  refine List.pairwise_append.mpr ⟨smallerOrder, largerOrder, ?_⟩
  intro first left second right
  obtain ⟨member, above⟩ := List.mem_filter.mp (smallerPerm.mem_iff.mp left)
  have firstInside : first ∈ before ++ pivot :: behind :=
    ((List.sublist_cons_self pivot behind).append_left before).subset member
  have secondInside := largerPerm.mem_iff.mp right
  exact consistent.trans first firstInside pivot pivotInside second
    (filter_subset_split _ secondInside)
    (consistent.total pivot pivotInside first firstInside ((Bool.not_eq_true' _).mp above))
    (mem_filter_split (precedes pivot) (consistent.refl pivotInside) secondInside)

theorem pivot_least {floor : Option α}
    (consistent : Consistent precedes (floor.toList ++ (before ++ pivot :: behind)))
    (above : ∀ low ∈ floor, ∀ item ∈ before ++ pivot :: behind, precedes low item = true)
    (equals : floor.any (precedes pivot) = true ∨
      ((before ++ behind).filter fun item => !precedes pivot item).isEmpty = true) :
    ∀ item ∈ before ++ pivot :: behind, precedes pivot item = true := by
  have pivotInside : pivot ∈ floor.toList ++ (before ++ pivot :: behind) := by simp
  intro item member
  rcases equals with low | none
  · obtain ⟨low, lowest, beneath⟩ := (Option.any_eq_true _ _).mp low
    exact consistent.trans pivot pivotInside low (by simp [lowest]) item
      (List.mem_append_right _ member) beneath (above low lowest item member)
  · rw [List.isEmpty_iff, List.filter_eq_nil_iff] at none
    rcases List.mem_cons.mp (List.perm_middle.mem_iff.mp member) with rfl | other
    · exact consistent.refl pivotInside
    · simpa using none item other

end Pivot

theorem exists_byPivots? {limit : Nat} {floor : Option α} {items : List α}
    (consistent : Consistent precedes (floor.toList ++ items))
    (above : ∀ low ∈ floor, ∀ item ∈ items, precedes low item = true) :
    ∃ sorted, byPivots? precedes limit floor items = some sorted ∧ InOrder precedes sorted := by
  fun_induction byPivots? precedes limit floor items with
  | case1 =>
      exact (small?_sorts precedes).inOrder (consistent.subset (List.subset_append_right _ _))
  | case2 floor items _ limit before pivot behind split others smaller equals ih =>
      rw [eq_of_splitAt split] at consistent above
      have inner := consistent.subset (List.subset_append_right floor.toList _)
      have part := List.Subset.trans (List.subset_append_right _ _)
        (split_perm before behind pivot (precedes · pivot)).subset
      obtain ⟨larger, done, ordered⟩ := ih (inner.subset part) nofun
      refine ⟨_, by rw [done]; rfl, ?_⟩
      exact equals_inOrder inner (pivot_least consistent above equals)
        (List.Subset.trans (byPivots?_perm _ _ _ _ done).subset part) ordered
  | case3 floor items _ limit before pivot behind split others smaller _ ihLarger ihSmaller =>
      rw [eq_of_splitAt split] at consistent above
      have inner := consistent.subset (List.subset_append_right floor.toList _)
      have pivotInside : pivot ∈ before ++ pivot :: behind := by simp
      have part : smaller ⊆ before ++ pivot :: behind :=
        (List.filter_sublist.trans
          ((List.sublist_cons_self pivot behind).append_left before)).subset
      obtain ⟨larger, largerDone, largerOrder⟩ := ihLarger
        (inner.subset (List.cons_subset.mpr ⟨pivotInside, filter_subset_split _⟩)) (by
          intro low lowest item member
          obtain rfl := Option.some.inj lowest
          exact mem_filter_split (precedes pivot) (inner.refl pivotInside) member)
      obtain ⟨less, lessDone, lessOrder⟩ := ihSmaller
        (consistent.subset (List.append_subset.mpr ⟨List.subset_append_left _ _,
          List.Subset.trans part (List.subset_append_right _ _)⟩))
        fun low lowest item member => above low lowest item (part member)
      refine ⟨less ++ larger, by rw [largerDone, lessDone]; rfl, ?_⟩
      exact smaller_append_inOrder inner (byPivots?_perm _ _ _ _ lessDone)
        (byPivots?_perm _ _ _ _ largerDone) lessOrder largerOrder
  | case4 =>
      exact (byRuns?_sorts (small?_sorts precedes) true).inOrder
        (consistent.subset (List.subset_append_right _ _))

theorem stable?_sorts (precedes : α → α → Bool) : Sorts precedes (stable? precedes) := by
  have finish : Sorts precedes fun rest =>
      byPivots? precedes (2 * Nat.log2 rest.length) none rest :=
    ⟨byPivots?_perm _ _ _ _, fun consistent => exists_byPivots? consistent nofun⟩
  have large := byRuns?_sorts finish
  constructor
  case perm =>
    intro items sorted given
    unfold stable? at given
    split at given
    · obtain rfl := Option.some.inj given
      exact insertion_perm items
    · exact (large _).perm given
  case inOrder =>
    intro items consistent
    unfold stable?
    split
    · exact ⟨_, rfl, insertion_inOrder consistent⟩
    · exact (large _).inOrder consistent

/-- Few items are always sorted, if not always in order. -/
theorem isSome_stable?_of_few (few : items.length ≤ insertionLimit) :
    (stable? precedes items).isSome = true := by
  rw [stable?, if_pos few]
  rfl

end Sorting

end Retrieval
