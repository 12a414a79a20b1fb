import Mathlib.Algebra.Order.Floor.Div
import Retrieval.Window

/-!
# The windows of a plan

A plan has a window at every multiple of its stride below the number of tokens,
and no others.  Since a window is at least as long as the stride, unless the
tokens end before, the windows hold every place between them.
-/

namespace Retrieval

namespace Window

def Holds (window : Window) (place : Nat) : Prop :=
  window.start ≤ place ∧ place < window.start + window.length

def numbered (count size step order : Nat) : Window :=
  ⟨order * step, min size (count - order * step)⟩

theorem lt_ceilDiv_iff {count step order : Nat} (advances : 0 < step) :
    order < count ⌈/⌉ step ↔ order * step < count := by
  rw [← not_le, ceilDiv_le_iff_le_mul advances, not_le, Nat.mul_comm]

/-- A window has at least one token, at most `size` of them, and ends within the sequence. -/
theorem numbered_within {count size step order : Nat} (filled : 0 < size)
    (starts : order * step < count) :
    1 ≤ (numbered count size step order).length ∧
      (numbered count size step order).length ≤ size ∧
      (numbered count size step order).start + (numbered count size step order).length ≤ count := by
  dsimp only [numbered]
  generalize order * step = start at starts
  omega

theorem stride_ok {size overlap step : Nat} (measured : stride size overlap = .ok step) :
    overlap < size := by
  unfold stride at measured
  split at measured
  · next smaller => exact smaller
  · cases measured

theorem getElem?_stepping (count size step : Nat) (advances : 0 < step) (start order : Nat) :
    (stepping count size step advances start)[order]? =
      if start + order * step < count then
        some ⟨start + order * step, min size (count - (start + order * step))⟩
      else none := by
  induction order generalizing start with
  | zero =>
      rw [stepping, Nat.zero_mul, Nat.add_zero]
      split <;> rfl
  | succ order ih =>
      have shifted : start + (order + 1) * step = start + step + order * step := by
        rw [Nat.succ_mul]
        omega
      rw [stepping, shifted]
      split
      · exact ih (start + step)
      · next past =>
        have beyond : ¬ start + step + order * step < count := by omega
        rw [if_neg beyond]
        rfl

section Plan

variable {count size overlap : Nat} {windows : List Window}

theorem plan_ok (planned : plan count size overlap = .ok windows) :
    ∃ smaller : overlap < size,
      windows = stepping count size (size - overlap) (Nat.sub_pos_of_lt smaller) 0 := by
  unfold plan at planned
  split at planned
  · next smaller =>
    cases planned
    exact ⟨smaller, rfl⟩
  · cases planned

theorem getElem?_plan (planned : plan count size overlap = .ok windows) (order : Nat) :
    windows[order]? =
      if order * (size - overlap) < count then
        some ⟨order * (size - overlap), min size (count - order * (size - overlap))⟩
      else none := by
  obtain ⟨smaller, rfl⟩ := plan_ok planned
  rw [getElem?_stepping, Nat.zero_add]

theorem plan_eq (smaller : overlap < size) :
    plan count size overlap =
      .ok ((List.range (count ⌈/⌉ (size - overlap))).map
        (numbered count size (size - overlap))) := by
  have planned : plan count size overlap = .ok _ := dif_pos smaller
  rw [planned]
  congr 1
  apply List.ext_getElem?
  intro order
  rw [getElem?_plan planned, List.getElem?_map]
  by_cases starts : order * (size - overlap) < count
  · have counted := (lt_ceilDiv_iff (Nat.sub_pos_of_lt smaller)).mpr starts
    rw [if_pos starts, List.getElem?_range counted]
    rfl
  · have beyond := mt (lt_ceilDiv_iff (Nat.sub_pos_of_lt smaller)).mp starts
    rw [if_neg starts, List.getElem?_eq_none (by simpa using beyond)]
    rfl

theorem exists_holds_of_plan (planned : plan count size overlap = .ok windows) {place : Nat}
    (inside : place < count) : ∃ window ∈ windows, window.Holds place := by
  obtain ⟨smaller, -⟩ := plan_ok planned
  have advances : 0 < size - overlap := Nat.sub_pos_of_lt smaller
  let order := place / (size - overlap)
  have before : order * (size - overlap) ≤ place := Nat.div_mul_le_self place (size - overlap)
  have after : place < order * (size - overlap) + (size - overlap) := by
    rw [← Nat.succ_mul, Nat.mul_comm]
    exact Nat.lt_mul_div_succ place advances
  have found := getElem?_plan planned order
  rw [if_pos (Nat.lt_of_le_of_lt before inside)] at found
  refine ⟨_, List.mem_of_getElem? found, before, ?_⟩
  generalize order * (size - overlap) = start at before after
  dsimp only
  omega

end Plan

end Window

end Retrieval
