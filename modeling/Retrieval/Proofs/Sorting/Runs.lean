import Retrieval.Proofs.Sorting.Ends

/-!
# Sorting by runs

The stretches of a list are the list again, each of them a permutation of a part of
it.  Joining neighbours keeps that, and it keeps runs that are said to be sorted in
order.  So the sort is one, whatever it finishes the other stretches with that is.
-/

namespace Retrieval

namespace Sorting

variable {α : Type} {precedes : α → α → Bool} {items lefts rights : List α}

/-! ## Merges -/

theorem listMerge_inOrder (consistent : Consistent precedes (lefts ++ rights))
    (leftOrder : InOrder precedes lefts) (rightOrder : InOrder precedes rights) :
    InOrder precedes (lefts.merge rights precedes) := by
  induction lefts generalizing rights with
  | nil => simpa using rightOrder
  | cons left lefts ih =>
      induction rights with
      | nil => simpa using leftOrder
      | cons right rights ihRight =>
          obtain ⟨leftFirst, leftRest⟩ := List.pairwise_cons.mp leftOrder
          obtain ⟨rightFirst, rightRest⟩ := List.pairwise_cons.mp rightOrder
          have first : left ∈ left :: lefts ++ right :: rights := by simp
          have second : right ∈ left :: lefts ++ right :: rights := by simp
          rw [List.cons_merge_cons]
          split
          case isTrue before =>
            refine List.pairwise_cons.mpr ⟨?_, ih (consistent.subset
              (List.subset_cons_self left _)) leftRest rightOrder⟩
            intro item member
            rcases List.mem_merge.mp member with onLeft | onRight
            · exact leftFirst item onLeft
            · rcases List.mem_cons.mp onRight with rfl | behind
              · exact before
              · exact consistent.trans left first right second item
                  (List.mem_append_right _ onRight) before (rightFirst item behind)
          case isFalse behind =>
            have before := consistent.total left first right second (Bool.eq_false_iff.mpr behind)
            refine List.pairwise_cons.mpr ⟨?_, ihRight (consistent.subset
              ((List.sublist_cons_self right rights).append_left _).subset) rightRest⟩
            intro item member
            rcases List.mem_merge.mp member with onLeft | onRight
            · rcases List.mem_cons.mp onLeft with rfl | inside
              · exact before
              · exact consistent.trans right second left first item
                  (List.mem_append_left _ onLeft) before (leftFirst item inside)
            · exact rightFirst item onRight

theorem merge_perm (lefts rights : List α) :
    (merge precedes lefts rights).Perm (lefts ++ rights) := by
  unfold merge
  split
  · exact List.merge_perm_append precedes
  · refine (List.reverse_perm _).trans ((List.merge_perm_append _).trans ?_)
    exact ((List.reverse_perm rights).append (List.reverse_perm lefts)).trans
      List.perm_append_comm

theorem merge_inOrder (consistent : Consistent precedes (lefts ++ rights))
    (leftOrder : InOrder precedes lefts) (rightOrder : InOrder precedes rights) :
    InOrder precedes (merge precedes lefts rights) := by
  unfold merge
  split
  · exact listMerge_inOrder consistent leftOrder rightOrder
  · refine inOrder_reverse_iff.mpr (listMerge_inOrder ?_ ?_ ?_)
    · refine (consistent.subset ?_).flip
      rw [← List.reverse_append]
      exact (List.reverse_perm _).subset
    · exact List.pairwise_reverse.mpr rightOrder
    · exact List.pairwise_reverse.mpr leftOrder

/-! ## Stretches -/

theorem pairwise_streak (follows : α → α → Bool) (last : α) (rest : List α)
    (trans : ∀ first ∈ last :: rest, ∀ second ∈ last :: rest, ∀ third ∈ last :: rest,
      follows first second = true → follows second third = true → follows first third = true) :
    (last :: rest.take (streak follows last rest)).Pairwise
      fun first second => follows first second = true := by
  induction rest generalizing last with
  | nil => exact List.pairwise_singleton _ last
  | cons item rest ih =>
      rw [streak]
      split
      case isTrue next =>
        have smaller := ih item fun first left second between third right =>
          trans first (List.mem_cons_of_mem _ left) second (List.mem_cons_of_mem _ between) third
            (List.mem_cons_of_mem _ right)
        rw [List.take_succ_cons]
        refine List.pairwise_cons.mpr ⟨?_, smaller⟩
        intro other member
        rcases List.mem_cons.mp member with rfl | behind
        · exact next
        · have inside : other ∈ rest := List.mem_of_mem_take behind
          exact trans last (by simp) item (by simp) other (by simp [inside]) next
            ((List.pairwise_cons.mp smaller).1 other behind)
      case isFalse => exact List.pairwise_singleton _ last

theorem foundRun_perm (precedes : α → α → Bool) (items : List α) :
    (foundRun precedes items).Perm (items.take (foundRun precedes items).length) := by
  have taken (first second : α) (rest : List α) (count : Nat) :
      first :: second :: rest.take count = (first :: second :: rest).take
        (first :: second :: rest.take count).length := by
    rw [List.length_cons, List.length_cons, List.take_succ_cons, List.take_succ_cons,
      List.length_take,
      ← List.take_eq_take_min]
  unfold foundRun
  split
  · split
    · exact .of_eq (taken _ _ _ _)
    · rw [List.length_reverse]
      exact (List.reverse_perm _).trans (.of_eq (taken _ _ _ _))
  · rw [List.take_length]

theorem foundRun_inOrder (consistent : Consistent precedes items) :
    InOrder precedes (foundRun precedes items) := by
  match items, consistent with
  | [], _ => exact .nil
  | [item], _ => exact List.pairwise_singleton _ item
  | first :: second :: rest, consistent =>
      rw [foundRun]
      split
      case isTrue before =>
        have rising := pairwise_streak precedes first (second :: rest) consistent.trans
        rw [streak, if_pos before] at rising
        exact rising
      case isFalse behind =>
        have falls : (!precedes first second) = true := by simpa using behind
        have falling := pairwise_streak (fun one other => !precedes one other) first
          (second :: rest) ?_
        · rw [streak, if_pos falls] at falling
          refine inOrder_reverse_iff.mpr (falling.imp_of_mem ?_)
          intro one other left right falls
          have inside (count : Nat) := List.cons_subset_cons first
            (List.take_subset count (second :: rest))
          exact consistent.total one (inside _ left) other (inside _ right)
            ((Bool.not_eq_true' _).mp falls)
        · intro one left other between third right before behind
          rw [Bool.not_eq_true'] at before behind ⊢
          exact consistent.trans_false left between right before behind

namespace Run

/-- A run that is said to be sorted is in order. -/
def Sound (precedes : α → α → Bool) (run : Run α) : Prop :=
  run.sorted = true → InOrder precedes run.items

end Run

section FirstRun

variable {eager : Bool} {least : Nat} {run : Run α}

theorem firstRun?_perm {item : α} {rest : List α} (positive : 0 < least)
    (first : firstRun? precedes eager least (item :: rest) = some run) :
    0 < run.items.length ∧ run.items.Perm ((item :: rest).take run.items.length) := by
  unfold firstRun? at first
  dsimp only at first
  have found := foundRun_perm precedes (item :: rest)
  split at first
  case isTrue long =>
    obtain rfl := Option.some.inj first
    exact ⟨Nat.lt_of_lt_of_le positive long, found⟩
  case isFalse short =>
    split at first
    case isTrue =>
      obtain ⟨sorted, given, rfl⟩ := Option.map_eq_some_iff.mp first
      have same := (small?_sorts precedes).perm given
      refine ⟨?_, same.trans (.of_eq ?_)⟩
      · rw [same.length_eq, List.length_take]
        exact Nat.lt_min.mpr ⟨by decide, Nat.succ_pos _⟩
      · rw [same.length_eq, List.length_take, ← List.take_eq_take_min]
    case isFalse =>
      obtain rfl := Option.some.inj first
      refine ⟨?_, .of_eq ?_⟩
      · rw [List.length_take]
        exact Nat.lt_min.mpr ⟨positive, Nat.succ_pos _⟩
      · dsimp only
        rw [List.length_take, ← List.take_eq_take_min]

theorem exists_firstRun? (eager : Bool) (least : Nat) (consistent : Consistent precedes items) :
    ∃ run, firstRun? precedes eager least items = some run ∧ run.Sound precedes := by
  unfold firstRun?
  dsimp only
  split
  · exact ⟨_, rfl, fun _ => foundRun_inOrder consistent⟩
  · split
    · obtain ⟨sorted, given, ordered⟩ :=
        (small?_sorts precedes).inOrder (consistent.subset (List.take_subset smallLimit items))
      rw [given]
      exact ⟨_, rfl, fun _ => ordered⟩
    · exact ⟨_, rfl, nofun⟩

theorem runs?_perm {runs : List (Run α)} (positive : 0 < least)
    (cut : runs? precedes eager least items = some runs) :
    (runs.flatMap Run.items).Perm items := by
  fun_induction runs? precedes eager least items generalizing runs with
  | case1 =>
      obtain rfl := Option.some.inj cut
      exact .refl []
  | case2 item rest ih =>
      obtain ⟨run, first, cut⟩ := Option.bind_eq_some_iff.mp cut
      obtain ⟨others, behind, cut⟩ := Option.bind_eq_some_iff.mp cut
      obtain rfl := Option.some.inj cut
      obtain ⟨some, same⟩ := firstRun?_perm positive first
      have whole := same.append (ih run behind)
      obtain ⟨count, counted⟩ := Nat.exists_eq_succ_of_ne_zero (Nat.ne_of_gt some)
      rw [counted, Nat.succ_sub_one, ← List.drop_succ_cons (a := item), List.take_append_drop]
        at whole
      exact whole

theorem exists_runs? (eager : Bool) (least : Nat) (consistent : Consistent precedes items) :
    ∃ runs, runs? precedes eager least items = some runs ∧ ∀ run ∈ runs, run.Sound precedes := by
  fun_induction runs? precedes eager least items with
  | case1 => exact ⟨[], rfl, List.forall_mem_nil _⟩
  | case2 item rest ih =>
      obtain ⟨run, first, sound⟩ := exists_firstRun? eager least consistent
      obtain ⟨others, behind, sounds⟩ := ih run (consistent.subset
        ((List.drop_sublist _ rest).trans (List.sublist_cons_self item rest)).subset)
      refine ⟨run :: others, ?_, List.forall_mem_cons.mpr ⟨sound, sounds⟩⟩
      rw [first, Option.bind_eq_bind, Option.bind_some, behind]
      rfl

end FirstRun

/-! ## Joins -/

section Joins

variable {room border : Nat} {finish : List α → Option (List α)} {left right run joined : Run α}
  {earlier earlier' : List (Run α × Nat)}

theorem finish?_perm (sorts : Sorts precedes finish) {sorted : List α}
    (finished : run.finish? finish = some sorted) : sorted.Perm run.items := by
  unfold Run.finish? at finished
  split at finished
  · obtain rfl := Option.some.inj finished
    exact .refl run.items
  · exact sorts.perm finished

theorem exists_finish? (sorts : Sorts precedes finish) (consistent : Consistent precedes run.items)
    (sound : run.Sound precedes) :
    ∃ sorted, run.finish? finish = some sorted ∧ InOrder precedes sorted := by
  unfold Run.finish?
  split
  case isTrue already => exact ⟨run.items, rfl, sound already⟩
  case isFalse => exact sorts.inOrder consistent

theorem join?_perm (sorts : Sorts precedes finish)
    (done : join? precedes room finish left right = some joined) :
    joined.items.Perm (left.items ++ right.items) := by
  unfold join? at done
  split at done
  · obtain ⟨lefts, leftDone, done⟩ := Option.bind_eq_some_iff.mp done
    obtain ⟨rights, rightDone, done⟩ := Option.bind_eq_some_iff.mp done
    obtain rfl := Option.some.inj done
    exact (merge_perm lefts rights).trans
      ((finish?_perm sorts leftDone).append (finish?_perm sorts rightDone))
  · obtain rfl := Option.some.inj done
    exact .refl _

theorem exists_join? (room : Nat) (sorts : Sorts precedes finish)
    (consistent : Consistent precedes (left.items ++ right.items))
    (leftSound : left.Sound precedes) (rightSound : right.Sound precedes) :
    ∃ joined, join? precedes room finish left right = some joined ∧ joined.Sound precedes := by
  unfold join?
  split
  · obtain ⟨lefts, leftDone, leftOrder⟩ := exists_finish? sorts
      (consistent.subset (List.subset_append_left _ _)) leftSound
    obtain ⟨rights, rightDone, rightOrder⟩ := exists_finish? sorts
      (consistent.subset (List.subset_append_right _ _)) rightSound
    have same := (finish?_perm sorts leftDone).append (finish?_perm sorts rightDone)
    rw [leftDone, rightDone]
    exact ⟨_, rfl, fun _ =>
      merge_inOrder (consistent.subset same.subset) leftOrder rightOrder⟩
  · exact ⟨_, rfl, nofun⟩

/-- The items of the runs that wait for a join. -/
def waiting (earlier : List (Run α × Nat)) : List α := earlier.flatMap fun entry => entry.1.items

theorem collapse?_perm (sorts : Sorts precedes finish)
    (done : collapse? precedes room finish border earlier run = some (earlier', joined)) :
    (waiting earlier' ++ joined.items).Perm (waiting earlier ++ run.items) := by
  induction earlier generalizing run with
  | nil =>
      obtain ⟨rfl, rfl⟩ := Prod.mk.inj (Option.some.inj done)
      exact .refl _
  | cons entry earlier ih =>
      obtain ⟨left, leftBorder⟩ := entry
      rw [collapse?] at done
      split at done
      · obtain ⟨merged, first, done⟩ := Option.bind_eq_some_iff.mp done
        refine (ih done).trans (((join?_perm sorts first).append_left _).trans ?_)
        rw [waiting, waiting, List.flatMap_cons, ← List.append_assoc]
        exact List.perm_append_comm.append_right run.items
      · obtain ⟨rfl, rfl⟩ := Prod.mk.inj (Option.some.inj done)
        exact .refl _

theorem collapse?_zero
    (done : collapse? precedes room finish 0 earlier run = some (earlier', joined)) :
    earlier' = [] := by
  induction earlier generalizing run with
  | nil => exact (Prod.mk.inj (Option.some.inj done)).1.symm
  | cons entry earlier ih =>
      obtain ⟨left, leftBorder⟩ := entry
      rw [collapse?, if_pos (Nat.zero_le leftBorder)] at done
      obtain ⟨merged, -, done⟩ := Option.bind_eq_some_iff.mp done
      exact ih done

theorem exists_collapse? (room border : Nat) (sorts : Sorts precedes finish)
    (consistent : Consistent precedes (waiting earlier ++ run.items))
    (sounds : ∀ entry ∈ earlier, entry.1.Sound precedes) (sound : run.Sound precedes) :
    ∃ earlier' joined, collapse? precedes room finish border earlier run =
        some (earlier', joined) ∧
      (∀ entry ∈ earlier', entry.1.Sound precedes) ∧ joined.Sound precedes := by
  induction earlier generalizing run with
  | nil => exact ⟨[], run, rfl, List.forall_mem_nil _, sound⟩
  | cons entry earlier ih =>
      obtain ⟨left, leftBorder⟩ := entry
      obtain ⟨leftSound, others⟩ := List.forall_mem_cons.mp sounds
      rw [waiting, List.flatMap_cons, List.append_assoc] at consistent
      rw [collapse?]
      split
      · have inside : left.items ++ run.items ⊆ left.items ++ (waiting earlier ++ run.items) :=
          ((List.sublist_append_right _ _).append_left _).subset
        obtain ⟨merged, done, mergedSound⟩ := exists_join? room sorts
          (consistent.subset inside) leftSound sound
        have same := (join?_perm sorts done).append_left (waiting earlier)
        have smaller := same.trans (List.perm_append_comm_assoc _ _ _)
        obtain ⟨earlier', joined, collapsed, facts⟩ :=
          ih (consistent.subset smaller.subset) others mergedSound
        refine ⟨earlier', joined, ?_, facts⟩
        rw [done]
        exact collapsed
      · exact ⟨_, run, rfl, sounds, sound⟩

theorem joinAll?_perm (sorts : Sorts precedes finish) {total start : Nat} {rest : List (Run α)}
    (done : joinAll? precedes room finish total start earlier run rest = some joined) :
    joined.items.Perm (waiting earlier ++ run.items ++ rest.flatMap Run.items) := by
  induction rest generalizing start earlier run with
  | nil =>
      obtain ⟨⟨left, last⟩, collapsed, rfl⟩ := Option.map_eq_some_iff.mp done
      have none := collapse?_zero collapsed
      have same := collapse?_perm sorts collapsed
      rw [none] at same
      rwa [List.flatMap_nil, List.append_nil]
  | cons next rest ih =>
      obtain ⟨⟨left, last⟩, collapsed, done⟩ := Option.bind_eq_some_iff.mp done
      refine (ih done).trans ?_
      rw [List.flatMap_cons, ← List.append_assoc]
      refine List.Perm.append_right _ (List.Perm.append_right _ ?_)
      rw [waiting, List.flatMap_cons]
      exact List.perm_append_comm.trans (collapse?_perm sorts collapsed)

theorem exists_joinAll? (room total start : Nat) (sorts : Sorts precedes finish)
    {rest : List (Run α)}
    (consistent : Consistent precedes (waiting earlier ++ run.items ++ rest.flatMap Run.items))
    (earlierSound : ∀ entry ∈ earlier, entry.1.Sound precedes) (sound : run.Sound precedes)
    (restSound : ∀ run ∈ rest, run.Sound precedes) :
    ∃ joined, joinAll? precedes room finish total start earlier run rest = some joined ∧
      joined.Sound precedes := by
  induction rest generalizing start earlier run with
  | nil =>
      rw [List.flatMap_nil, List.append_nil] at consistent
      obtain ⟨left, joined, collapsed, -, joinedSound⟩ :=
        exists_collapse? room 0 sorts consistent earlierSound sound
      refine ⟨joined, ?_, joinedSound⟩
      rw [joinAll?, collapsed]
      rfl
  | cons next rest ih =>
      obtain ⟨nextSound, others⟩ := List.forall_mem_cons.mp restSound
      obtain ⟨left, last, collapsed, leftSound, lastSound⟩ := exists_collapse? room
        (depth total start (start + run.items.length)
          (start + run.items.length + next.items.length)) sorts
        (consistent.subset (List.subset_append_left _ _)) earlierSound sound
      have same := List.perm_append_comm.trans (collapse?_perm sorts collapsed)
      rw [joinAll?, collapsed]
      refine ih _ ?_ (List.forall_mem_cons.mpr ⟨lastSound, leftSound⟩) nextSound others
      refine consistent.subset ?_
      rw [List.flatMap_cons, ← List.append_assoc, waiting, List.flatMap_cons]
      exact ((same.append_right _).append_right _).subset

end Joins

/-! ## All runs -/

theorem enough_pos {total : Nat} (positive : 0 < total) : 0 < enough total := by
  unfold enough
  split
  case isTrue => omega
  case isFalse large =>
    have log : 12 ≤ Nat.log2 total := (Nat.le_log2 (by omega)).mpr (by omega)
    have power : 2 ^ 1 ≤ 1 <<< ((1 + Nat.log2 total) / 2) := by
      rw [Nat.one_shiftLeft]
      exact Nat.pow_le_pow_right (by decide) (by omega)
    exact Nat.div_pos (Nat.le_add_right_of_le power) (by decide)

theorem byRuns?_sorts {finish : List α → Option (List α)} (sorts : Sorts precedes finish)
    (eager : Bool) : Sorts precedes (byRuns? precedes eager finish) where
  perm := by
    intro items sorted given
    obtain ⟨runs, cut, given⟩ := Option.bind_eq_some_iff.mp given
    cases items with
    | nil =>
        rw [runs?] at cut
        obtain rfl := Option.some.inj cut
        obtain rfl := Option.some.inj given
        exact .refl []
    | cons item items =>
        have same := runs?_perm (enough_pos (Nat.succ_pos items.length)) cut
        cases runs with
        | nil => cases same.length_eq
        | cons first rest =>
            obtain ⟨joined, done, finished⟩ := Option.bind_eq_some_iff.mp given
            exact (finish?_perm sorts finished).trans ((joinAll?_perm sorts done).trans same)
  inOrder := by
    intro items consistent
    obtain ⟨runs, cut, sounds⟩ := exists_runs? eager (enough items.length) consistent
    unfold byRuns?
    dsimp only
    rw [cut]
    cases items with
    | nil =>
        rw [runs?] at cut
        obtain rfl := Option.some.inj cut
        exact ⟨[], rfl, .nil⟩
    | cons item items =>
        have same := runs?_perm (enough_pos (Nat.succ_pos items.length)) cut
        cases runs with
        | nil => cases same.length_eq
        | cons first rest =>
            obtain ⟨firstSound, restSound⟩ := List.forall_mem_cons.mp sounds
            obtain ⟨joined, done, sound⟩ := exists_joinAll?
              (max ((item :: items).length - (item :: items).length / 2)
                (min (item :: items).length 100000)) (item :: items).length 0 sorts
              (show Consistent precedes (waiting [] ++ first.items ++ rest.flatMap Run.items) from
                consistent.subset same.subset) (List.forall_mem_nil _) firstSound restSound
            have alike := (joinAll?_perm sorts done).trans same
            obtain ⟨sorted, finished, ordered⟩ :=
              exists_finish? sorts (consistent.subset alike.subset) sound
            refine ⟨sorted, ?_, ordered⟩
            rw [Option.bind_eq_bind, Option.bind_some]
            dsimp only
            rw [done]
            exact finished

end Sorting

end Retrieval
