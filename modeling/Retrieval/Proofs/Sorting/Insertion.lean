import Mathlib.Data.List.Basic
import Retrieval.Sorting

/-!
# Sorting by insertion

What is sorted is a permutation, whatever the comparisons say, and where they
are consistent it is in order.  The halves of a small piece are sorted by insertion,
from its first items one by one or from four of them at once.
-/

namespace Retrieval

namespace Sorting

variable {α : Type}

/-- Among some items, one of two precedes the other, and what precedes a third item through a
second one precedes it. -/
structure Consistent (precedes : α → α → Bool) (items : List α) : Prop where
  total : ∀ first ∈ items, ∀ second ∈ items,
    precedes first second = false → precedes second first = true
  trans : ∀ first ∈ items, ∀ second ∈ items, ∀ third ∈ items,
    precedes first second = true → precedes second third = true → precedes first third = true

def InOrder (precedes : α → α → Bool) (items : List α) : Prop :=
  items.Pairwise fun first second => precedes first second = true

/-- A sort that gives the items in another order, if it gives any, and sorts them where
comparisons are consistent. -/
structure Sorts (precedes : α → α → Bool) (sort : List α → Option (List α)) : Prop where
  perm : ∀ {items sorted}, sort items = some sorted → sorted.Perm items
  inOrder : ∀ {items}, Consistent precedes items →
    ∃ sorted, sort items = some sorted ∧ InOrder precedes sorted

variable {precedes : α → α → Bool} {items : List α}

namespace Consistent

theorem subset {some : List α} (consistent : Consistent precedes items) (inside : some ⊆ items) :
    Consistent precedes some where
  total := fun first left second right =>
    consistent.total first (inside left) second (inside right)
  trans := fun first left second between third right =>
    consistent.trans first (inside left) second (inside between) third (inside right)

theorem flip (consistent : Consistent precedes items) :
    Consistent (fun later earlier => precedes earlier later) items where
  total := fun first left second right => consistent.total second right first left
  trans := fun first left second between third right before behind =>
    consistent.trans third right second between first left behind before

theorem refl (consistent : Consistent precedes items) {item : α} (inside : item ∈ items) :
    precedes item item = true := by
  cases same : precedes item item with
  | true => rfl
  | false => rw [← same, consistent.total item inside item inside same]

/-- What does not precede an item that does not precede a third one does not precede that. -/
theorem trans_false (consistent : Consistent precedes items) {first second third : α}
    (left : first ∈ items) (between : second ∈ items) (right : third ∈ items)
    (before : precedes first second = false) (behind : precedes second third = false) :
    precedes first third = false := by
  refine Bool.eq_false_iff.mpr fun through => ?_
  have back := consistent.total second between third right behind
  have contrary := consistent.trans first left third right second between through back
  rw [before] at contrary
  cases contrary

end Consistent

theorem inOrder_reverse_iff :
    InOrder precedes items.reverse ↔
      InOrder (fun later earlier => precedes earlier later) items :=
  List.pairwise_reverse

theorem inOrder_of_length_le_one (short : items.length ≤ 1) : InOrder precedes items := by
  cases items with
  | nil => exact .nil
  | cons item rest =>
      cases rest with
      | nil => exact List.pairwise_singleton _ item
      | cons other rest => cases Nat.le_of_succ_le_succ short

/-! ## Insertion -/

theorem place_perm (precedes : α → α → Bool) (item : α) (falling : List α) :
    (place precedes item falling).Perm (item :: falling) := by
  induction falling with
  | nil => exact .refl _
  | cons last falling ih =>
      rw [place]
      split
      · exact .refl _
      · exact (ih.cons last).trans (.swap item last falling)

theorem extend_perm (falling items : List α) :
    (extend precedes falling items).Perm (falling ++ items) := by
  induction items generalizing falling with
  | nil => rw [List.append_nil]; exact .refl falling
  | cons item items ih =>
      refine (ih (place precedes item falling)).trans ?_
      exact ((place_perm precedes item falling).append_right items).trans List.perm_middle.symm

theorem insertion_perm (items : List α) : (insertion precedes items).Perm items :=
  (List.reverse_perm _).trans (extend_perm [] items)

theorem place_inOrder {item : α} {falling : List α}
    (consistent : Consistent precedes (item :: falling))
    (sorted : InOrder (fun later earlier => precedes earlier later) falling) :
    InOrder (fun later earlier => precedes earlier later) (place precedes item falling) := by
  induction falling with
  | nil => exact List.pairwise_singleton _ item
  | cons last falling ih =>
      obtain ⟨above, rest⟩ := List.pairwise_cons.mp sorted
      have lastInside : last ∈ item :: last :: falling := by simp
      rw [place]
      split
      case isTrue behind =>
        refine List.pairwise_cons.mpr ⟨?_, sorted⟩
        intro other member
        rcases List.mem_cons.mp member with rfl | inside
        · exact behind
        · exact consistent.trans other (List.mem_cons_of_mem _ member) last lastInside item
            List.mem_cons_self (above other inside) behind
      case isFalse before =>
        have smaller : Consistent precedes (item :: falling) :=
          consistent.subset (List.cons_subset_cons item (List.subset_cons_self last falling))
        refine List.pairwise_cons.mpr ⟨?_, ih smaller rest⟩
        intro other member
        rcases List.mem_cons.mp ((place_perm precedes item falling).mem_iff.mp member) with
          rfl | inside
        · exact consistent.total last lastInside other List.mem_cons_self
            (Bool.eq_false_iff.mpr before)
        · exact above other inside

theorem extend_inOrder {falling : List α} (consistent : Consistent precedes (falling ++ items))
    (sorted : InOrder (fun later earlier => precedes earlier later) falling) :
    InOrder (fun later earlier => precedes earlier later) (extend precedes falling items) := by
  induction items generalizing falling with
  | nil => exact sorted
  | cons item items ih =>
      have placed := place_perm precedes item falling
      refine ih (consistent.subset ?_) (place_inOrder (consistent.subset ?_) sorted)
      · exact ((placed.append_right items).trans List.perm_middle.symm).subset
      · intro other member
        rcases List.mem_cons.mp member with rfl | inside
        · exact List.mem_append_right _ List.mem_cons_self
        · exact List.mem_append_left _ inside

theorem insertion_inOrder (consistent : Consistent precedes items) :
    InOrder precedes (insertion precedes items) :=
  inOrder_reverse_iff.mpr (extend_inOrder consistent .nil)

/-! ## Four items -/

theorem pair_perm (first second : α) :
    [(pair precedes first second).1, (pair precedes first second).2].Perm [first, second] := by
  unfold pair
  split
  · exact .refl _
  · exact .swap first second []

theorem pair_inOrder {first second : α} (consistent : Consistent precedes [first, second]) :
    precedes (pair precedes first second).1 (pair precedes first second).2 = true := by
  unfold pair
  split
  case isTrue before => exact before
  case isFalse before =>
    exact consistent.total first (by simp) second (by simp) (Bool.eq_false_iff.mpr before)

theorem between_perm (left right last : α) :
    (between precedes left right last).Perm [left, right, last] :=
  (pair_perm left right).append_right [last]

theorem fromPairs_perm (low high least most : α) :
    (fromPairs precedes low high least most).Perm [low, high, least, most] := by
  have lowLeast : [least, low, high, most].Perm [low, high, least, most] :=
    (List.Perm.swap low least [high, most]).trans ((List.Perm.swap high least [most]).cons low)
  unfold fromPairs
  split
  · exact (between_perm high least most).cons low
  · refine ((between_perm least most high).cons low).trans (.cons low ?_)
    exact List.perm_append_singleton high [least, most]
  · exact ((between_perm low high most).cons least).trans lowLeast
  · refine ((between_perm low most high).cons least).trans (.trans ?_ lowLeast)
    exact ((List.Perm.swap high most []).cons low).cons least

theorem four_perm (first second third fourth : α) :
    (four precedes first second third fourth).Perm [first, second, third, fourth] :=
  (fromPairs_perm _ _ _ _).trans ((pair_perm first second).append (pair_perm third fourth))

theorem cons_between_inOrder {first left right last : α}
    (consistent : Consistent precedes [first, left, right, last])
    (firstLeft : precedes first left = true) (firstRight : precedes first right = true)
    (leftLast : precedes left last = true) (rightLast : precedes right last = true) :
    InOrder precedes (first :: between precedes left right last) := by
  have firstLast : precedes first last = true :=
    consistent.trans first (by simp) left (by simp) last (by simp) firstLeft leftLast
  have inner : precedes (pair precedes left right).1 (pair precedes left right).2 = true :=
    pair_inOrder (consistent.subset (by simp))
  have members : ∀ item ∈ [(pair precedes left right).1, (pair precedes left right).2],
      precedes first item = true ∧ precedes item last = true := by
    intro item member
    rcases List.mem_pair.mp ((pair_perm left right).mem_iff.mp member) with rfl | rfl
    · exact ⟨firstLeft, leftLast⟩
    · exact ⟨firstRight, rightLast⟩
  have low := members (pair precedes left right).1 (by simp)
  have high := members (pair precedes left right).2 (by simp)
  simp [InOrder, between, inner, low, high, firstLast]

theorem fromPairs_inOrder {low high least most : α}
    (consistent : Consistent precedes [low, high, least, most])
    (left : precedes low high = true) (right : precedes least most = true) :
    InOrder precedes (fromPairs precedes low high least most) := by
  unfold fromPairs
  split
  case h_1 lowLeast highMost =>
    exact cons_between_inOrder (consistent.subset (by simp)) left lowLeast highMost right
  case h_2 lowLeast highMost =>
    have mostHigh := consistent.total high (by simp) most (by simp) highMost
    refine cons_between_inOrder (consistent.subset (by simp)) lowLeast ?_ ?_ mostHigh
    · exact consistent.trans low (by simp) least (by simp) most (by simp) lowLeast right
    · exact consistent.trans least (by simp) most (by simp) high (by simp) right mostHigh
  case h_3 lowLeast highMost =>
    have leastLow := consistent.total low (by simp) least (by simp) lowLeast
    refine cons_between_inOrder (consistent.subset (by simp)) leastLow ?_ ?_ highMost
    · exact consistent.trans least (by simp) low (by simp) high (by simp) leastLow left
    · exact consistent.trans low (by simp) high (by simp) most (by simp) left highMost
  case h_4 lowLeast highMost =>
    have leastLow := consistent.total low (by simp) least (by simp) lowLeast
    have mostHigh := consistent.total high (by simp) most (by simp) highMost
    exact cons_between_inOrder (consistent.subset (by simp)) leastLow right left mostHigh

theorem four_inOrder {first second third fourth : α}
    (consistent : Consistent precedes [first, second, third, fourth]) :
    InOrder precedes (four precedes first second third fourth) := by
  refine fromPairs_inOrder (consistent.subset ?_) ?_ ?_
  · exact ((pair_perm first second).append (pair_perm third fourth)).subset
  · exact pair_inOrder (consistent.subset (by simp))
  · exact pair_inOrder (consistent.subset (by simp))

/-! ## Halves -/

theorem sortHalf_perm (precedes : α → α → Bool) (wide : Bool) (items : List α) :
    (sortHalf precedes wide items).Perm items := by
  unfold sortHalf
  split
  · refine (List.reverse_perm _).trans ((extend_perm _ _).trans ?_)
    exact ((List.reverse_perm _).trans (four_perm _ _ _ _)).append_right _
  · exact insertion_perm items

theorem sortHalf_inOrder {wide : Bool} (consistent : Consistent precedes items) :
    InOrder precedes (sortHalf precedes wide items) := by
  unfold sortHalf
  split
  case h_1 first second third fourth rest =>
    have start : Consistent precedes [first, second, third, fourth] :=
      consistent.subset (by simp)
    have perm := (List.reverse_perm (four precedes first second third fourth)).trans
      (four_perm first second third fourth)
    refine inOrder_reverse_iff.mpr (extend_inOrder ?_ ?_)
    · exact consistent.subset (perm.append_right rest).subset
    · exact List.pairwise_reverse.mpr (four_inOrder start)
  case h_2 => exact insertion_inOrder consistent

end Sorting

end Retrieval
