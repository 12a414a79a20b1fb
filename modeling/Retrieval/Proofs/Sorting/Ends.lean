import Retrieval.Proofs.Sorting.Insertion

/-!
# Merges from both ends

The front of a merge cuts the two halves: what it took belongs before what it left.
Its end, which is the front of the halves turned round, cuts them as well.  Where
comparisons are consistent two cuts do not cross (`Cut.le`), so the ends meet.
-/

namespace Retrieval

namespace Sorting

variable {α : Type} {precedes : α → α → Bool} {items lefts rights : List α}

/-- Some of the items on the left and on the right belong before all others. -/
structure Cut (precedes : α → α → Bool) (lefts rights : List α) (left right : Nat) : Prop where
  leftFirst : ∀ first ∈ lefts.take left, ∀ second ∈ rights.drop right,
    precedes first second = true
  rightFirst : ∀ second ∈ rights.take right, ∀ first ∈ lefts.drop left,
    precedes first second = false

namespace Cut

variable {left right left' right' : Nat}

theorem le (cut : Cut precedes lefts rights left right)
    (cut' : Cut precedes lefts rights left' right') (shorter : left + right ≤ left' + right')
    (leftBound : left ≤ lefts.length) (rightBound : right ≤ rights.length)
    (leftBound' : left' ≤ lefts.length) (rightBound' : right' ≤ rights.length) :
    left ≤ left' ∧ right ≤ right' := by
  have crossing {i j k l : Nat} (one : Cut precedes lefts rights i j)
      (other : Cut precedes lefts rights k l) (more : k < i) (fewer : j < l)
      (leftLength : i ≤ lefts.length) (rightLength : l ≤ rights.length) : False := by
    have before := one.leftFirst lefts[k] (List.mem_take_iff_getElem.mpr ⟨k, by omega, rfl⟩)
      rights[j] (List.mem_drop_iff_getElem.mpr ⟨0, by omega, by simp⟩)
    have behind := other.rightFirst rights[j] (List.mem_take_iff_getElem.mpr ⟨j, by omega, rfl⟩)
      lefts[k] (List.mem_drop_iff_getElem.mpr ⟨0, by omega, by simp⟩)
    rw [before] at behind
    cases behind
  constructor
  · by_contra above
    exact crossing cut cut' (by omega) (by omega) leftBound rightBound'
  · by_contra above
    exact crossing cut' cut (by omega) (by omega) leftBound' rightBound

theorem precedes_of_mem (cut : Cut precedes lefts rights left right)
    (consistent : Consistent precedes (lefts ++ rights)) (leftOrder : InOrder precedes lefts)
    (rightOrder : InOrder precedes rights) {first second : α}
    (before : first ∈ lefts.take left ++ rights.take right)
    (behind : second ∈ lefts.drop left ++ rights.drop right) : precedes first second = true := by
  have across {list : List α} (sorted : InOrder precedes list) (count : Nat) :
      ∀ one ∈ list.take count, ∀ other ∈ list.drop count, precedes one other = true := by
    rw [InOrder, ← List.take_append_drop count list] at sorted
    exact (List.pairwise_append.mp sorted).2.2
  rcases List.mem_append.mp before with onLeft | onRight
  · rcases List.mem_append.mp behind with alsoLeft | notLeft
    · exact across leftOrder left first onLeft second alsoLeft
    · exact cut.leftFirst first onLeft second notLeft
  · rcases List.mem_append.mp behind with notRight | alsoRight
    · exact consistent.total second (List.mem_append_left _ (List.mem_of_mem_drop notRight)) first
        (List.mem_append_right _ (List.mem_of_mem_take onRight))
        (cut.rightFirst first onRight second notRight)
    · exact across rightOrder right first onRight second alsoRight

theorem of_reverse
    (cut : Cut (fun later earlier => precedes earlier later) rights.reverse lefts.reverse
      right left) :
    Cut precedes lefts rights (lefts.length - left) (rights.length - right) where
  leftFirst := by
    intro first before second behind
    refine cut.leftFirst second ?_ first ?_
    · rw [List.take_reverse]
      exact List.mem_reverse.mpr behind
    · rw [List.drop_reverse]
      exact List.mem_reverse.mpr before
  rightFirst := by
    intro second before first behind
    refine cut.rightFirst first ?_ second ?_
    · rw [List.take_reverse]
      exact List.mem_reverse.mpr behind
    · rw [List.drop_reverse]
      exact List.mem_reverse.mpr before

end Cut

/-! ## The front of a merge -/

section Front

variable {count : Nat}

theorem front_perm (precedes : α → α → Bool) (leftLong : count ≤ lefts.length)
    (rightLong : count ≤ rights.length) :
    (front precedes count lefts rights).2 ≤ count ∧
      (front precedes count lefts rights).1.Perm
        (lefts.take (front precedes count lefts rights).2 ++
          rights.take (count - (front precedes count lefts rights).2)) := by
  induction count generalizing lefts rights with
  | zero => cases lefts <;> cases rights <;> exact ⟨Nat.le_refl 0, .refl _⟩
  | succ count ih =>
      cases lefts with
      | nil => cases leftLong
      | cons left lefts =>
          cases rights with
          | nil => cases rightLong
          | cons right rights =>
              rw [List.length_cons, Nat.add_le_add_iff_right] at leftLong rightLong
              rw [front]
              split
              · have long : count ≤ (right :: rights).length := Nat.le_succ_of_le rightLong
                obtain ⟨bound, same⟩ := ih leftLong long
                dsimp only
                refine ⟨Nat.succ_le_succ bound, ?_⟩
                rw [List.take_succ_cons, Nat.add_sub_add_right]
                exact same.cons left
              · have long : count ≤ (left :: lefts).length := Nat.le_succ_of_le leftLong
                obtain ⟨bound, same⟩ := ih long rightLong
                dsimp only
                refine ⟨Nat.le_succ_of_le bound, ?_⟩
                rw [Nat.succ_sub bound, List.take_succ_cons]
                exact (same.cons right).trans List.perm_middle.symm

theorem mem_of_mem_front (leftLong : count ≤ lefts.length) (rightLong : count ≤ rights.length)
    {item : α} (member : item ∈ (front precedes count lefts rights).1) :
    item ∈ lefts ∨ item ∈ rights := by
  rcases List.mem_append.mp ((front_perm precedes leftLong rightLong).2.mem_iff.mp
    member) with one | other
  · exact .inl (List.mem_of_mem_take one)
  · exact .inr (List.mem_of_mem_take other)

theorem front_inOrder (leftLong : count ≤ lefts.length) (rightLong : count ≤ rights.length)
    (consistent : Consistent precedes (lefts ++ rights)) (leftOrder : InOrder precedes lefts)
    (rightOrder : InOrder precedes rights) :
    InOrder precedes (front precedes count lefts rights).1 ∧
      Cut precedes lefts rights (front precedes count lefts rights).2
        (count - (front precedes count lefts rights).2) := by
  induction count generalizing lefts rights with
  | zero =>
      have none : front precedes 0 lefts rights = ([], 0) := by
        cases lefts <;> cases rights <;> rfl
      rw [none]
      exact ⟨.nil, fun _ absent => by simp at absent, fun _ absent => by simp at absent⟩
  | succ count ih =>
      cases lefts with
      | nil => cases leftLong
      | cons left lefts =>
          cases rights with
          | nil => cases rightLong
          | cons right rights =>
              rw [List.length_cons, Nat.add_le_add_iff_right] at leftLong rightLong
              obtain ⟨leftFirst, leftRest⟩ := List.pairwise_cons.mp leftOrder
              obtain ⟨rightFirst, rightRest⟩ := List.pairwise_cons.mp rightOrder
              have first : left ∈ left :: lefts ++ right :: rights := by simp
              have second : right ∈ left :: lefts ++ right :: rights := by simp
              rw [front]
              split
              case isTrue before =>
                have long : count ≤ (right :: rights).length := Nat.le_succ_of_le rightLong
                obtain ⟨sorted, cut⟩ := ih leftLong long
                  (consistent.subset (List.subset_cons_self left _)) leftRest rightOrder
                have below : ∀ item ∈ right :: rights, precedes left item = true := by
                  intro item member
                  rcases List.mem_cons.mp member with rfl | behind
                  · exact before
                  · exact consistent.trans left first right second item
                      (List.mem_append_right _ member) before (rightFirst item behind)
                dsimp only
                rw [Nat.add_sub_add_right]
                refine ⟨List.pairwise_cons.mpr ⟨?_, sorted⟩, ?_, cut.rightFirst⟩
                · intro item member
                  exact (mem_of_mem_front leftLong long member).elim (leftFirst item) (below item)
                · intro item member other behind
                  rcases List.mem_cons.mp member with rfl | inside
                  · exact below other (List.mem_of_mem_drop behind)
                  · exact cut.leftFirst item inside other behind
              case isFalse behind =>
                have before := Bool.eq_false_iff.mpr behind
                have long : count ≤ (left :: lefts).length := Nat.le_succ_of_le leftLong
                have fewer := (front_perm precedes long rightLong).1
                obtain ⟨sorted, cut⟩ := ih long rightLong
                  (consistent.subset ((List.sublist_cons_self right rights).append_left _).subset)
                  leftOrder rightRest
                have above : ∀ item ∈ left :: lefts, precedes item right = false := by
                  intro item member
                  rcases List.mem_cons.mp member with rfl | inside
                  · exact before
                  · refine Bool.eq_false_iff.mpr fun earlier => behind ?_
                    exact consistent.trans left first item (List.mem_append_left _ member) right
                      second (leftFirst item inside) earlier
                dsimp only
                rw [Nat.succ_sub fewer]
                refine ⟨List.pairwise_cons.mpr ⟨?_, sorted⟩, cut.leftFirst, ?_⟩
                · intro item member
                  rcases mem_of_mem_front long rightLong member with one | other
                  · exact consistent.total item (List.mem_append_left _ one) right second
                      (above item one)
                  · exact rightFirst item other
                · intro item member other inside
                  rcases List.mem_cons.mp member with rfl | later
                  · exact above other (List.mem_of_mem_drop inside)
                  · exact cut.rightFirst item later other inside

end Front

/-! ## Both ends -/

theorem append_exchange (first second third fourth : List α) :
    (first ++ second ++ (third ++ fourth)).Perm (first ++ third ++ (second ++ fourth)) := by
  simp only [List.append_assoc]
  exact (List.perm_append_comm_assoc second third fourth).append_left first

theorem take_append_slice_append_drop {start stop : Nat} (ordered : start ≤ stop)
    (items : List α) :
    items.take start ++ (items.take stop).drop start ++ items.drop stop = items := by
  have head : items.take start = (items.take stop).take start := by
    rw [List.take_take, Nat.min_eq_left ordered]
  rw [head, List.take_append_drop, List.take_append_drop]

theorem back_perm (precedes : α → α → Bool) (long : lefts.length ≤ rights.length) :
    let back := front (fun later earlier => precedes earlier later) lefts.length rights.reverse
      lefts.reverse
    back.2 ≤ lefts.length ∧
      back.1.reverse.Perm (lefts.drop back.2 ++ rights.drop (rights.length - back.2)) := by
  intro back
  have leftLong : lefts.length ≤ rights.reverse.length := by rwa [List.length_reverse]
  have rightLong : lefts.length ≤ lefts.reverse.length := Nat.le_of_eq List.length_reverse.symm
  obtain ⟨bound, same⟩ :=
    front_perm (fun later earlier => precedes earlier later) leftLong rightLong
  refine ⟨bound, (List.reverse_perm _).trans (same.trans ?_)⟩
  rw [List.take_reverse, List.take_reverse, Nat.sub_sub_self bound]
  exact ((List.reverse_perm _).append (List.reverse_perm _)).trans List.perm_append_comm

theorem back_inOrder (long : lefts.length ≤ rights.length)
    (consistent : Consistent precedes (lefts ++ rights)) (leftOrder : InOrder precedes lefts)
    (rightOrder : InOrder precedes rights) :
    let back := front (fun later earlier => precedes earlier later) lefts.length rights.reverse
      lefts.reverse
    InOrder precedes back.1.reverse ∧
      Cut precedes lefts rights back.2 (rights.length - back.2) := by
  intro back
  have turned : Consistent (fun later earlier => precedes earlier later)
      (rights.reverse ++ lefts.reverse) := by
    refine (consistent.subset ?_).flip
    rw [← List.reverse_append]
    exact (List.reverse_perm _).subset
  have leftLong : lefts.length ≤ rights.reverse.length := by rwa [List.length_reverse]
  have rightLong : lefts.length ≤ lefts.reverse.length := Nat.le_of_eq List.length_reverse.symm
  obtain ⟨sorted, cut⟩ := front_inOrder leftLong rightLong turned
    (List.pairwise_reverse.mpr rightOrder) (List.pairwise_reverse.mpr leftOrder)
  have bound := (back_perm precedes long).1
  have there := cut.of_reverse
  rw [Nat.sub_sub_self bound] at there
  exact ⟨inOrder_reverse_iff.mpr sorted, there⟩

theorem mergeEnds?_perm {merged : List α} (long : lefts.length ≤ rights.length)
    (met : mergeEnds? precedes lefts rights = some merged) :
    merged.Perm (lefts ++ rights) := by
  unfold mergeEnds? at met
  obtain ⟨-, first⟩ := front_perm precedes (Nat.le_refl lefts.length) long
  obtain ⟨-, last⟩ := back_perm precedes long
  dsimp only at met last
  split at met
  case isFalse => cases met
  case isTrue meet =>
    obtain rfl := Option.some.inj met
    have whole := congrArg₂ (· ++ ·) (take_append_slice_append_drop meet.1 lefts)
      (take_append_slice_append_drop meet.2 rights)
    refine ((first.append_right _).append last).trans (.trans ?_ (.of_eq whole))
    exact ((append_exchange _ _ _ _).append_right _).trans (append_exchange _ _ _ _)

theorem slices_inOrder {left left' right right' : Nat}
    (short : left' + right' ≤ left + right + 1) (leftMeets : left ≤ left')
    (rightMeets : right ≤ right') :
    InOrder precedes ((lefts.take left').drop left ++ (rights.take right').drop right) := by
  have length : ((lefts.take left').drop left ++ (rights.take right').drop right).length ≤ 1 := by
    simp only [List.length_append, List.length_drop, List.length_take]
    omega
  exact inOrder_of_length_le_one length

theorem exists_mergeEnds? (long : lefts.length ≤ rights.length)
    (longer : rights.length ≤ lefts.length + 1)
    (consistent : Consistent precedes (lefts ++ rights)) (leftOrder : InOrder precedes lefts)
    (rightOrder : InOrder precedes rights) :
    ∃ merged, mergeEnds? precedes lefts rights = some merged ∧ InOrder precedes merged := by
  obtain ⟨firstBound, firstPerm⟩ := front_perm precedes (Nat.le_refl lefts.length) long
  obtain ⟨firstOrder, firstCut⟩ :=
    front_inOrder (Nat.le_refl lefts.length) long consistent leftOrder rightOrder
  obtain ⟨lastBound, lastPerm⟩ := back_perm precedes long
  obtain ⟨lastOrder, lastCut⟩ := back_inOrder long consistent leftOrder rightOrder
  unfold mergeEnds?
  dsimp only at *
  generalize front precedes lefts.length lefts rights = first at *
  generalize front (fun later earlier => precedes earlier later) lefts.length rights.reverse
    lefts.reverse = last at *
  obtain ⟨first, fromLeft⟩ := first
  obtain ⟨last, fromRight⟩ := last
  dsimp only at *
  have meet : fromLeft ≤ fromRight ∧ lefts.length - fromLeft ≤ rights.length - fromRight :=
    firstCut.le lastCut (by omega) firstBound (by omega) lastBound (by omega)
  have firstBefore {item other : α} (member : item ∈ first)
      (behind : other ∈ lefts.drop fromLeft ++ rights.drop (lefts.length - fromLeft)) :
      precedes item other = true :=
    firstCut.precedes_of_mem consistent leftOrder rightOrder (firstPerm.mem_iff.mp member) behind
  have lastBehind {item other : α}
      (before : item ∈ lefts.take fromRight ++ rights.take (rights.length - fromRight))
      (member : other ∈ last.reverse) : precedes item other = true :=
    lastCut.precedes_of_mem consistent leftOrder rightOrder before (lastPerm.mem_iff.mp member)
  rw [if_pos meet]
  refine ⟨_, rfl, List.pairwise_append.mpr ⟨List.pairwise_append.mpr
    ⟨firstOrder, slices_inOrder (by omega) meet.1 meet.2, ?_⟩, lastOrder, ?_⟩⟩
  · intro item member other between
    refine firstBefore member (List.mem_append.mpr ?_)
    rcases List.mem_append.mp between with onLeft | onRight
    · rw [List.drop_take] at onLeft
      exact .inl (List.mem_of_mem_take onLeft)
    · rw [List.drop_take] at onRight
      exact .inr (List.mem_of_mem_take onRight)
  · intro item member other behind
    rcases List.mem_append.mp member with before | between
    · refine firstBefore before (List.mem_append.mpr ?_)
      rcases List.mem_append.mp (lastPerm.mem_iff.mp behind) with onLeft | onRight
      · exact .inl (List.drop_subset_drop_left _ meet.1 onLeft)
      · exact .inr (List.drop_subset_drop_left _ meet.2 onRight)
    · refine lastBehind (List.mem_append.mpr ?_) behind
      exact (List.mem_append.mp between).imp List.mem_of_mem_drop List.mem_of_mem_drop

/-! ## Small pieces -/

theorem small?_sorts (precedes : α → α → Bool) : Sorts precedes (small? precedes) where
  perm := by
    intro items sorted given
    unfold small? at given
    dsimp only at given
    split at given
    · obtain rfl := Option.some.inj given
      exact .refl items
    · have halves := (sortHalf_perm precedes (decide (8 ≤ items.length))
        (items.take (items.length / 2))).append
          (sortHalf_perm precedes (decide (8 ≤ items.length)) (items.drop (items.length / 2)))
      rw [List.take_append_drop] at halves
      refine (mergeEnds?_perm ?_ given).trans halves
      rw [(sortHalf_perm _ _ _).length_eq, (sortHalf_perm _ _ _).length_eq, List.length_take,
        List.length_drop]
      omega
  inOrder := by
    intro items consistent
    unfold small?
    dsimp only
    split
    case isTrue few =>
      exact ⟨items, rfl, inOrder_of_length_le_one (Nat.le_of_lt_succ few)⟩
    case isFalse many =>
      have left := sortHalf_perm precedes (decide (8 ≤ items.length))
        (items.take (items.length / 2))
      have right := sortHalf_perm precedes (decide (8 ≤ items.length))
        (items.drop (items.length / 2))
      have leftLength := left.length_eq
      have rightLength := right.length_eq
      rw [List.length_take] at leftLength
      rw [List.length_drop] at rightLength
      have whole := left.append right
      rw [List.take_append_drop] at whole
      refine exists_mergeEnds? (by omega) (by omega) (consistent.subset whole.subset) ?_ ?_
      · exact sortHalf_inOrder (consistent.subset (List.take_subset _ _))
      · exact sortHalf_inOrder (consistent.subset (List.drop_subset _ _))

end Sorting

end Retrieval
