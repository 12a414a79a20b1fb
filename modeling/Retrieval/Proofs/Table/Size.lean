import Mathlib.Data.Set.Card
import Retrieval.Proofs.Table

/-!
# Tables counted

The size of a table is the number of its keys.
-/

namespace Retrieval

theorem encard_setOf_mem {α : Type} {items : List α} (once : items.Nodup) :
    {item | item ∈ items}.encard = items.length := by
  classical
  rw [← List.coe_toFinset, Set.encard_coe_eq_coe_finsetCard, List.toFinset_card_of_nodup once]

theorem Table.encard_keys {κ β : Type} [Ord κ] [Std.TransOrd κ] [Std.LawfulEqOrd κ]
    (table : Table κ β) : {key | table.contains key = true}.encard = table.size := by
  have listed : {key | table.contains key = true} = {key | key ∈ table.keys} := by
    ext key
    exact mem_keys.symm
  rw [listed, encard_setOf_mem table.nodup_keys, length_keys]

theorem Table.size_merge {κ β : Type} [Ord κ] [Std.TransOrd κ] [Std.LawfulEqOrd κ]
    [DecidableEq κ] (table newer : Table κ β) :
    (table.merge newer).size =
      table.size + (newer.keys.filter fun key => !table.contains key).length := by
  have apart : (table.keys ++ newer.keys.filter fun key => !table.contains key).Nodup := by
    refine List.nodup_append.mpr ⟨table.nodup_keys, newer.nodup_keys.filter _, ?_⟩
    rintro key old other added rfl
    have absent := (List.mem_filter.mp added).2
    rw [mem_keys.mp old] at absent
    cases absent
  have same : (table.merge newer).keys.Perm
      (table.keys ++ newer.keys.filter fun key => !table.contains key) := by
    refine (List.perm_ext_iff_of_nodup (nodup_keys _) apart).mpr ?_
    intro key
    rw [List.mem_append, List.mem_filter, mem_keys, mem_keys, mem_keys, contains_merge]
    cases table.contains key <;> simp
  rw [← length_keys, same.length_eq, List.length_append, length_keys]

end Retrieval
