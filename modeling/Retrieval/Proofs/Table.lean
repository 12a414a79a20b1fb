import Retrieval.Table

/-!
# Look-ups in tables

What a look-up finds after each way to build a table, the keys of a table in
their order, and tables that bind the same keys to related values.
-/

namespace Retrieval

namespace Table

variable {κ β γ δ : Type} [Ord κ]

theorem ascending_iff_keys (entries : List (κ × β)) :
    Ascending entries ↔ (entries.map (·.1)).Pairwise fun earlier later =>
      compare earlier later = .lt := by
  rw [List.pairwise_map]
  rfl

theorem pairwise_keys (table : Table κ β) :
    table.keys.Pairwise fun earlier later => compare earlier later = .lt :=
  (ascending_iff_keys table.entries).mp table.ascending

theorem length_keys (table : Table κ β) : table.keys.length = table.size :=
  List.length_map _

theorem ext_entries {first second : Table κ β} (same : first.entries = second.entries) :
    first = second := by
  cases first
  cases second
  cases same
  rfl

theorem get?_eq_none_iff {table : Table κ β} {key : κ} :
    table.get? key = none ↔ table.contains key = false := by
  rw [contains, Option.isSome_eq_false_iff, Option.isNone_iff_eq_none]

theorem isEmpty_iff (table : Table κ β) : table.isEmpty = true ↔ table = empty := by
  obtain ⟨entries, sorted⟩ := table
  cases entries with
  | nil => exact ⟨fun _ => rfl, fun _ => rfl⟩
  | cons head rest =>
      constructor
      · intro none
        cases none
      · intro same
        cases same

theorem size_eq_zero_iff (table : Table κ β) : table.size = 0 ↔ table = empty := by
  rw [← isEmpty_iff, isEmpty, List.isEmpty_iff, size, List.length_eq_zero_iff]

section Order

variable [Std.TransOrd κ]

@[simp] theorem merge_empty (table : Table κ β) : table.merge empty = table := rfl

theorem setEntry_of_all_lt {key : κ} (value : β) {entries : List (κ × β)}
    (later : ∀ entry ∈ entries, compare entry.1 key = .lt) :
    setEntry key value entries = entries ++ [(key, value)] := by
  induction entries with
  | nil => rfl
  | cons head rest ih =>
      have after : compare key head.1 = .gt :=
        Std.OrientedCmp.gt_of_lt (later head List.mem_cons_self)
      have tail := ih fun entry inside => later entry (List.mem_cons_of_mem _ inside)
      simp only [setEntry, after, tail, List.cons_append]

theorem entries_insertMany {table : Table κ β} {bindings : List (κ × β)}
    (sorted : Ascending (table.entries ++ bindings)) :
    (table.insertMany bindings).entries = table.entries ++ bindings := by
  induction bindings generalizing table with
  | nil => exact (List.append_nil _).symm
  | cons binding rest ih =>
      obtain ⟨key, value⟩ := binding
      have before : ∀ entry ∈ table.entries, compare entry.1 key = .lt := fun entry inside =>
        (List.pairwise_append.mp sorted).2.2 entry inside _ List.mem_cons_self
      have grown : (table.insert key value).entries = table.entries ++ [(key, value)] :=
        setEntry_of_all_lt value before
      have split : table.entries ++ (key, value) :: rest =
          (table.insert key value).entries ++ rest := by
        rw [grown, List.append_assoc, List.singleton_append]
      rw [split] at sorted ⊢
      exact ih sorted

theorem ofList_eq {bindings : List (κ × β)} (sorted : Ascending bindings) :
    ofList bindings = ⟨bindings, sorted⟩ := by
  have appended : Ascending ((empty : Table κ β).entries ++ bindings) := sorted
  exact ext_entries (entries_insertMany appended)

theorem ofList_entries (table : Table κ β) : ofList table.entries = table :=
  ofList_eq table.ascending

@[simp] theorem empty_merge (table : Table κ β) : empty.merge table = table :=
  table.ofList_entries

end Order

theorem contains_iff {table : Table κ β} {key : κ} :
    table.contains key = true ↔ ∃ value, table.get? key = some value :=
  Option.isSome_iff_exists

theorem nodup_keys [Std.LawfulEqOrd κ] (table : Table κ β) : table.keys.Nodup := by
  refine table.pairwise_keys.imp ?_
  rintro earlier later before rfl
  have reflexive : compare earlier earlier = .eq := Std.ReflCmp.compare_self
  rw [reflexive] at before
  cases before

@[simp] theorem get?_map [Std.LawfulEqOrd κ] (change : κ → β → γ) (table : Table κ β)
    (key : κ) : (table.map change).get? key = (table.get? key).map (change key) := by
  obtain ⟨entries, sorted⟩ := table
  simp only [get?, map]
  clear sorted
  induction entries with
  | nil => rfl
  | cons head rest ih =>
      obtain ⟨other, bound⟩ := head
      simp only [List.map_cons, valueOf?]
      cases order : compare key other with
      | lt => rfl
      | eq =>
          have same : key = other := Std.LawfulEqCmp.eq_of_compare order
          rw [same]
          rfl
      | gt => exact ih

section Lookup

variable [Std.TransOrd κ] [Std.LawfulEqOrd κ]

theorem mem_keys {table : Table κ β} {key : κ} :
    key ∈ table.keys ↔ table.contains key = true := by
  rw [contains_iff, keys, List.mem_map]
  constructor
  · rintro ⟨⟨other, value⟩, inside, rfl⟩
    exact ⟨value, get?_eq_some_iff.mpr inside⟩
  · rintro ⟨value, found⟩
    exact ⟨(key, value), get?_eq_some_iff.mp found, rfl⟩

variable [DecidableEq κ]

theorem get?_insertMany (table : Table κ β) (bindings : List (κ × β)) (key : κ) :
    (table.insertMany bindings).get? key =
      (bindings.reverse.lookup key).or (table.get? key) := by
  induction bindings generalizing table with
  | nil => rfl
  | cons binding rest ih =>
      obtain ⟨other, value⟩ := binding
      have step : (table.insertMany ((other, value) :: rest)).get? key =
          (rest.reverse.lookup key).or ((table.insert other value).get? key) := ih _
      rw [step, get?_insert, List.reverse_cons, List.lookup_append, Option.or_assoc]
      by_cases same : key = other
      · simp [same]
      · have differs : (key == other) = false := beq_false_of_ne same
        simp [same, List.lookup_cons, differs]

theorem get?_ofList (bindings : List (κ × β)) (key : κ) :
    (ofList bindings).get? key = bindings.reverse.lookup key := by
  rw [ofList, get?_insertMany, get?_empty, Option.or_none]

theorem get?_insertMany_ofList (table : Table κ β) (bindings : List (κ × β)) (key : κ) :
    (table.insertMany bindings).get? key =
      ((ofList bindings).get? key).or (table.get? key) := by
  rw [get?_insertMany, get?_ofList]

/-- A table made from bindings has the last binding of a key. -/
theorem get?_ofList_eq_some_iff {bindings : List (κ × β)} {key : κ} {value : β} :
    (ofList bindings).get? key = some value ↔
      ∃ before after, bindings = before ++ (key, value) :: after ∧
        ∀ binding ∈ after, binding.1 ≠ key := by
  rw [get?_ofList, List.lookup_eq_some_iff]
  constructor
  · rintro ⟨after, before, split, others⟩
    refine ⟨before.reverse, after.reverse, ?_, ?_⟩
    · rw [List.reverse_eq_iff] at split
      simpa using split
    · intro binding member same
      have differs := others binding (List.mem_reverse.mp member)
      rw [same, bne_self_eq_false] at differs
      cases differs
  · rintro ⟨before, after, rfl, others⟩
    refine ⟨after.reverse, before.reverse, by simp, ?_⟩
    intro binding member
    exact bne_iff_ne.mpr (others binding (List.mem_reverse.mp member)).symm

theorem mem_of_get?_ofList {bindings : List (κ × β)} {key : κ} {value : β}
    (found : (ofList bindings).get? key = some value) : (key, value) ∈ bindings := by
  obtain ⟨before, after, rfl, -⟩ := get?_ofList_eq_some_iff.mp found
  exact List.mem_append_right before List.mem_cons_self

theorem contains_ofList_iff {bindings : List (κ × β)} {key : κ} :
    (ofList bindings).contains key = true ↔ ∃ binding ∈ bindings, binding.1 = key := by
  rw [contains_iff]
  constructor
  · rintro ⟨value, found⟩
    exact ⟨(key, value), mem_of_get?_ofList found, rfl⟩
  · rintro ⟨binding, member, rfl⟩
    rw [← Option.isSome_iff_exists, Option.isSome_iff_ne_none, get?_ofList]
    intro absent
    have differs := List.lookup_eq_none_iff.mp absent binding (List.mem_reverse.mpr member)
    rw [bne_self_eq_false] at differs
    cases differs

theorem contains_ofList_of_mem {bindings : List (κ × β)} {binding : κ × β}
    (member : binding ∈ bindings) : (ofList bindings).contains binding.1 = true :=
  contains_ofList_iff.mpr ⟨binding, member, rfl⟩

@[simp] theorem get?_merge (table newer : Table κ β) (key : κ) :
    (table.merge newer).get? key = (newer.get? key).or (table.get? key) := by
  rw [merge, get?_insertMany_ofList, ofList_entries]

theorem contains_merge (table newer : Table κ β) (key : κ) :
    (table.merge newer).contains key = (newer.contains key || table.contains key) := by
  rw [contains, get?_merge, Option.isSome_or]
  rfl

theorem insertMany_eq_merge (table : Table κ β) (bindings : List (κ × β)) :
    table.insertMany bindings = table.merge (ofList bindings) := by
  apply ext_get?
  intro key
  rw [get?_insertMany_ofList, get?_merge]

theorem merge_assoc (first second third : Table κ β) :
    (first.merge second).merge third = first.merge (second.merge third) := by
  apply ext_get?
  intro key
  rw [get?_merge, get?_merge, get?_merge, get?_merge, Option.or_assoc]

@[simp] theorem merge_self (table : Table κ β) : table.merge table = table := by
  apply ext_get?
  intro key
  rw [get?_merge, Option.or_self]

theorem ofList_append (earlier later : List (κ × β)) :
    ofList (earlier ++ later) = (ofList earlier).merge (ofList later) := by
  rw [ofList, insertMany, List.foldl_append]
  exact insertMany_eq_merge (ofList earlier) later

theorem map_merge (change : κ → β → γ) (table newer : Table κ β) :
    (table.merge newer).map change = (table.map change).merge (newer.map change) := by
  apply ext_get?
  intro key
  rw [get?_map, get?_merge, get?_merge, get?_map, get?_map, Option.map_or]

theorem get?_ensure (table : Table κ β) (key other : κ) (value : β) :
    (table.ensure key value).get? other =
      if other = key then some ((table.get? key).getD value) else table.get? other := by
  rw [ensure]
  cases found : table.get? key with
  | none =>
      have absent : table.contains key = false := by rw [contains, found]; rfl
      rw [absent, if_neg Bool.false_ne_true, get?_insert]
      rfl
  | some bound =>
      have present : table.contains key = true := by rw [contains, found]; rfl
      rw [present, if_pos rfl]
      by_cases same : other = key
      · rw [if_pos same, same, found]
        rfl
      · rw [if_neg same]

theorem contains_insert (table : Table κ β) (key other : κ) (value : β) :
    (table.insert key value).contains other = (decide (other = key) || table.contains other) := by
  rw [contains, contains, get?_insert]
  by_cases same : other = key <;> simp [same]

theorem contains_ensure (table : Table κ β) (key other : κ) (value : β) :
    (table.ensure key value).contains other = (decide (other = key) || table.contains other) := by
  rw [contains, contains, get?_ensure]
  by_cases same : other = key <;> simp [same]

theorem insert_insert (table : Table κ β) (key : κ) (first second : β) :
    (table.insert key first).insert key second = table.insert key second := by
  apply ext_get?
  intro other
  rw [get?_insert, get?_insert, get?_insert]
  by_cases same : other = key
  · rw [if_pos same, if_pos same]
  · rw [if_neg same, if_neg same, if_neg same]

end Lookup

/-! ## Tables over the same keys -/

theorem keys_map (change : κ → β → γ) (table : Table κ β) : (table.map change).keys = table.keys :=
  List.map_map

theorem keys_eq_of_contains [Std.TransOrd κ] [Std.LawfulEqOrd κ] {first : Table κ β}
    {second : Table κ γ} (same : ∀ key, first.contains key = second.contains key) :
    first.keys = second.keys := by
  have forgotten : (first.map fun _ _ => ()) = second.map fun _ _ => () := by
    apply ext_get?
    intro key
    have both := same key
    rw [contains, contains] at both
    rw [get?_map, get?_map]
    cases left : first.get? key <;> cases right : second.get? key <;> rw [left, right] at both <;>
      first | rfl | cases both
  calc first.keys = (first.map fun _ _ => ()).keys := (keys_map _ _).symm
    _ = (second.map fun _ _ => ()).keys := by rw [forgotten]
    _ = second.keys := keys_map _ _

/-- The tables bind the same keys, and the two values of each key are related. -/
def Paired (related : β → γ → Prop) (left : Table κ β) (right : Table κ γ) : Prop :=
  ∀ key, Option.Rel related (left.get? key) (right.get? key)

namespace Paired

variable {related : β → γ → Prop} {left newerLeft : Table κ β} {right newerRight : Table κ γ}

theorem empty : Paired related (empty : Table κ β) (Table.empty : Table κ γ) :=
  fun _ => Option.Rel.none

theorem contains_eq (paired : Paired related left right) (key : κ) :
    left.contains key = right.contains key := by
  have both := paired key
  rw [contains, contains]
  generalize left.get? key = first, right.get? key = second at both ⊢
  cases both <;> rfl

theorem related_of_get? (paired : Paired related left right) {key : κ} {value : β} {other : γ}
    (found : left.get? key = some value) (matched : right.get? key = some other) :
    related value other := by
  have both := paired key
  rw [found, matched] at both
  cases both with
  | some agrees => exact agrees

theorem merge [Std.TransOrd κ] [Std.LawfulEqOrd κ] [DecidableEq κ]
    (newer : Paired related newerLeft newerRight) (older : Paired related left right) :
    Paired related (left.merge newerLeft) (right.merge newerRight) := by
  intro key
  have added := newer key
  rw [get?_merge, get?_merge]
  generalize newerLeft.get? key = first, newerRight.get? key = second at added ⊢
  cases added with
  | some agrees => exact Option.Rel.some agrees
  | none => exact older key

end Paired

end Table

namespace KeySet

variable {κ : Type} [Ord κ] [Std.TransOrd κ] [Std.LawfulEqOrd κ]

theorem mem_toList {set : KeySet κ} {key : κ} : key ∈ set.toList ↔ set.contains key = true :=
  Table.mem_keys

theorem mem_toList_add [DecidableEq κ] {set : KeySet κ} {key other : κ} :
    other ∈ (set.add key).toList ↔ other = key ∨ other ∈ set.toList := by
  rw [mem_toList, mem_toList, add, Table.contains_insert, Bool.or_eq_true, decide_eq_true_eq]

end KeySet

end Retrieval
