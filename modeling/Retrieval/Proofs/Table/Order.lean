import Mathlib.Data.List.Nodup
import Mathlib.Data.String.Basic
import Retrieval.Proofs.Table

/-!
# Tables and sorted lists

A table lists its keys in the one order in which they ascend, so it lists the
bindings that it was made from sorted by their keys, and sorting any list of its
keys gives its keys.
-/

namespace Retrieval

/-- Where keys ascend strictly, sorting by them leaves no choice. -/
theorem mergeSort_eq_of_ascending {α β : Type} [LinearOrder β] (key : α → β)
    {precedes : α → α → Bool}
    (means : ∀ first second, precedes first second = true ↔ key first ≤ key second)
    {items listed : List α} (same : items.Perm listed)
    (ascending : listed.Pairwise fun first second => key first < key second) :
    items.mergeSort precedes = listed := by
  have transitive (first second third : α) (left : precedes first second = true)
      (right : precedes second third = true) : precedes first third = true :=
    (means _ _).mpr (((means _ _).mp left).trans ((means _ _).mp right))
  have total (first second : α) :
      (precedes first second || precedes second first) = true := by
    rw [Bool.or_eq_true, means, means]
    exact le_total _ _
  have permuted := (List.mergeSort_perm items precedes).trans same
  have apart : (listed.map key).Nodup :=
    List.pairwise_map.mpr (ascending.imp fun before => before.ne)
  refine permuted.eq_of_pairwise ?_ (List.pairwise_mergeSort transitive total items)
    (ascending.imp fun before => (means _ _).mpr before.le)
  intro first second left right earlier later
  exact List.inj_on_of_nodup_map apart (permuted.mem_iff.mp left) right
    (((means _ _).mp earlier).antisymm ((means _ _).mp later))

namespace Table

variable {β : Type}

theorem pairwise_keys_lt (table : Table String β) : table.keys.Pairwise (· < ·) :=
  table.pairwise_keys.imp fun before => compare_lt_iff_lt.mp before

theorem mergeSort_eq_keys {table : Table String β} {visits : List String}
    (listed : visits.Perm table.keys) : visits.mergeSort (· ≤ ·) = table.keys :=
  mergeSort_eq_of_ascending id (fun _ _ => decide_eq_true_iff) listed table.pairwise_keys_lt

theorem perm_entries_ofList {κ : Type} [Ord κ] [Std.TransOrd κ] [Std.LawfulEqOrd κ]
    [DecidableEq κ] {bindings : List (κ × β)} (once : (bindings.map (·.1)).Nodup) :
    (ofList bindings).entries.Perm bindings := by
  refine (List.perm_ext_iff_of_nodup (nodup_keys (ofList bindings)).of_map once.of_map).mpr ?_
  rintro ⟨key, value⟩
  rw [← get?_eq_some_iff]
  constructor
  · exact mem_of_get?_ofList
  · intro listed
    obtain ⟨bound, found⟩ := contains_iff.mp (contains_ofList_of_mem listed)
    cases List.inj_on_of_nodup_map once (mem_of_get?_ofList found) listed rfl
    exact found

theorem ofList_of_perm {κ : Type} [Ord κ] [Std.TransOrd κ] [Std.LawfulEqOrd κ] [DecidableEq κ]
    {table : Table κ β} {bindings : List (κ × β)} (same : bindings.Perm table.entries) :
    ofList bindings = table := by
  have once : (bindings.map (·.1)).Nodup := (same.map _).nodup_iff.mpr table.nodup_keys
  refine ext_get? fun key => Option.ext fun value => ?_
  rw [get?_eq_some_iff, get?_eq_some_iff]
  exact ((perm_entries_ofList once).trans same).mem_iff

end Table

namespace KeySet

variable {κ : Type} [Ord κ] [Std.TransOrd κ] [Std.LawfulEqOrd κ] [DecidableEq κ]

theorem mem_toList_ofKeys {keys : List κ} {key : κ} : key ∈ (ofKeys keys).toList ↔ key ∈ keys := by
  have grown (set : KeySet κ) :
      key ∈ (keys.foldl add set).toList ↔ key ∈ keys ∨ key ∈ set.toList := by
    induction keys generalizing set with
    | nil => simp
    | cons first rest ih =>
        rw [List.foldl_cons, ih, mem_toList_add, List.mem_cons]
        tauto
  refine (grown Table.empty).trans (or_iff_left ?_)
  exact List.not_mem_nil

theorem contains_ofKeys {keys : List κ} {key : κ} :
    (ofKeys keys).contains key = true ↔ key ∈ keys :=
  mem_toList.symm.trans mem_toList_ofKeys

omit [Std.LawfulEqOrd κ] [DecidableEq κ] in
theorem ofKeys_keys (set : KeySet κ) : ofKeys set.keys = set := by
  have bound (grown : KeySet κ) (entries : List (κ × Unit)) :
      (entries.map (·.1)).foldl add grown = grown.insertMany entries := by
    rw [List.foldl_map]
    rfl
  rw [ofKeys, Table.keys, bound]
  exact Table.ofList_entries set

end KeySet

end Retrieval
