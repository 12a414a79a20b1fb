import Mathlib.Data.Set.Card
import Mathlib.Order.Interval.Finset.Nat
import Retrieval.Proofs.Window
import Retrieval.Tokenizer

/-!
# How the windows of a plan lie

The windows of a plan start one stride apart and leave no place between them.  Two
windows in a row share the overlap, or what is left of the sequence where that is
less (`Tiles`).  None of them reaches beyond the sequence: its slice is whole, and
its end is found without an overflow.
-/

namespace Retrieval

namespace Window

/-- The slice of a sequence has a member for every place of the window. -/
def Slices {α : Type} (window : Window) (items : List α) : Prop :=
  (window.slice items).length = window.length ∧
    ∀ place < window.length, (window.slice items)[place]? = items[window.start + place]?

def shared (first second : Window) : Set Nat :=
  {place | first.Holds place ∧ second.Holds place}

/-- Windows over a sequence of `count` places, each of them `size` places long where the sequence
is, and each two in a row with an overlap. -/
structure Tiles (count size overlap : Nat) (windows : List Window) : Prop where
  counted : windows.length = count ⌈/⌉ (size - overlap)
  placed : ∀ order < windows.length, windows[order]? =
    some ⟨order * (size - overlap), min size (count - order * (size - overlap))⟩
  filled : ∀ window ∈ windows, 1 ≤ window.length
  within : ∀ window ∈ windows, window.start + window.length ≤ count
  covered : ∀ place < count, ∃ window ∈ windows, window.Holds place
  adjoining : ∀ order first next, windows[order]? = some first →
    windows[order + 1]? = some next → next.start ≤ first.start + first.length
  overlapping : ∀ order first next, windows[order]? = some first →
    windows[order + 1]? = some next →
      (shared first next).ncard = min overlap (count - (order + 1) * (size - overlap))

theorem slices_of_le {α : Type} {window : Window} {items : List α}
    (within : window.start + window.length ≤ items.length) : window.Slices items := by
  constructor
  · rw [slice, List.length_take, List.length_drop]
    omega
  · intro place inside
    rw [slice, List.getElem?_take_of_lt inside, List.getElem?_drop]

section Plan

variable {count size overlap order : Nat}

theorem shared_numbered (smaller : overlap < size) :
    shared (numbered count size (size - overlap) order)
        (numbered count size (size - overlap) (order + 1)) =
      Set.Ico ((order + 1) * (size - overlap))
        ((order + 1) * (size - overlap) +
          min overlap (count - (order + 1) * (size - overlap))) := by
  ext place
  have next : (order + 1) * (size - overlap) = order * (size - overlap) + (size - overlap) :=
    Nat.succ_mul order (size - overlap)
  simp only [shared, Holds, numbered, Set.mem_ofPred_eq, Set.mem_Ico, next]
  generalize order * (size - overlap) = start
  omega

theorem ncard_shared_numbered (smaller : overlap < size) :
    (shared (numbered count size (size - overlap) order)
        (numbered count size (size - overlap) (order + 1))).ncard =
      min overlap (count - (order + 1) * (size - overlap)) := by
  rw [shared_numbered smaller, ← Finset.coe_Ico, Set.ncard_coe_finset, Nat.card_Ico,
    Nat.add_sub_cancel_left]

variable {windows : List Window}

theorem length_plan (planned : plan count size overlap = .ok windows) :
    windows.length = count ⌈/⌉ (size - overlap) := by
  obtain ⟨smaller, -⟩ := plan_ok planned
  obtain rfl := Except.ok.inj (planned.symm.trans (plan_eq smaller))
  rw [List.length_map, List.length_range]

theorem numbered_of_plan (planned : plan count size overlap = .ok windows) {window : Window}
    (found : windows[order]? = some window) :
    order * (size - overlap) < count ∧ window = numbered count size (size - overlap) order := by
  rw [getElem?_plan planned] at found
  split at found
  · next starts => exact ⟨starts, (Option.some.inj found).symm⟩
  · cases found

theorem tiles_of_plan (planned : plan count size overlap = .ok windows) :
    Tiles count size overlap windows := by
  obtain ⟨smaller, -⟩ := plan_ok planned
  have advances : 0 < size - overlap := Nat.sub_pos_of_lt smaller
  have filled : 0 < size := Nat.zero_lt_of_lt smaller
  have bounds (window : Window) (member : window ∈ windows) :
      1 ≤ window.length ∧ window.start + window.length ≤ count := by
    obtain ⟨order, found⟩ := List.mem_iff_getElem?.mp member
    obtain ⟨starts, rfl⟩ := numbered_of_plan planned found
    obtain ⟨positive, -, inside⟩ := numbered_within filled starts
    exact ⟨positive, inside⟩
  constructor
  case counted => exact length_plan planned
  case placed =>
    intro order listed
    rw [length_plan planned, lt_ceilDiv_iff advances] at listed
    rw [getElem?_plan planned, if_pos listed]
  case filled => exact fun window member => (bounds window member).1
  case within => exact fun window member => (bounds window member).2
  case covered => exact fun place inside => exists_holds_of_plan planned inside
  case adjoining =>
    intro order first next found follows
    obtain ⟨-, rfl⟩ := numbered_of_plan planned found
    obtain ⟨starts, rfl⟩ := numbered_of_plan planned follows
    dsimp only [numbered]
    rw [Nat.succ_mul] at starts ⊢
    generalize order * (size - overlap) = start at starts
    omega
  case overlapping =>
    intro order first next found follows
    obtain ⟨-, rfl⟩ := numbered_of_plan planned found
    obtain ⟨-, rfl⟩ := numbered_of_plan planned follows
    exact ncard_shared_numbered smaller

theorem exists_plan_iff : (∃ windows, plan count size overlap = .ok windows) ↔ overlap < size :=
  ⟨fun ⟨_, planned⟩ => (plan_ok planned).1, fun smaller => ⟨_, plan_eq smaller⟩⟩

end Plan

theorem toNat_add_ofNat {first second bound : Nat} (within : first + second ≤ bound)
    (fits : bound < UInt64.size) :
    (UInt64.ofNat first + UInt64.ofNat second).toNat = first + second := by
  have whole : first + second < UInt64.size := Nat.lt_of_le_of_lt within fits
  rw [UInt64.toNat_add, UInt64.toNat_ofNat', UInt64.toNat_ofNat', ← Nat.add_mod]
  exact Nat.mod_eq_of_lt whole

/-- Over the numbers of a machine, a plan exists if and only if the overlap is smaller than the
size.  Its windows then tile the sequence, the ends of windows do not overflow, and whatever
tokenizer gives that many tokens, the slice of every window is whole. -/
theorem plan_tiles_sequence (count size overlap : UInt64) :
    ((∃ windows, plan count.toNat size.toNat overlap.toNat = .ok windows) ↔ overlap < size) ∧
      ∀ windows, plan count.toNat size.toNat overlap.toNat = .ok windows →
        Tiles count.toNat size.toNat overlap.toNat windows ∧
          (∀ window ∈ windows,
            (UInt64.ofNat window.start + UInt64.ofNat window.length).toNat =
              window.start + window.length) ∧
          ∀ (tokenizer : Tokenizer) (text : String),
            (tokenizer.encode text).length = count.toNat →
              ∀ window ∈ windows, window.Slices (tokenizer.encode text) := by
  refine ⟨exists_plan_iff.trans UInt64.lt_iff_toNat_lt.symm, ?_⟩
  intro windows planned
  have tiles := tiles_of_plan planned
  refine ⟨tiles, ?_, ?_⟩
  · intro window member
    exact toNat_add_ofNat (tiles.within window member) count.toNat_lt
  · intro tokenizer text counted window member
    exact slices_of_le (counted ▸ tiles.within window member)

/-- The longest sequence with the longest windows and half of their length as overlap: the third
window has the last place only, and shares it. -/
theorem plan_tiles_sequence_of_longest :
    ∃ windows : List Window,
      plan (2 ^ 64 - 1) (2 ^ 64 - 1) (2 ^ 63) = .ok windows ∧ windows.length = 3 ∧
        windows[2]? = some ⟨2 ^ 64 - 2, 1⟩ ∧
        (∀ window ∈ windows,
          (UInt64.ofNat window.start + UInt64.ofNat window.length).toNat =
            window.start + window.length) ∧
        ∀ first next, windows[1]? = some first → windows[2]? = some next →
          (shared first next).ncard = 1 := by
  have largest : (18446744073709551615 : UInt64).toNat = 2 ^ 64 - 1 := rfl
  have half : (9223372036854775808 : UInt64).toNat = 2 ^ 63 := rfl
  obtain ⟨planned, laid⟩ := plan_tiles_sequence 18446744073709551615 18446744073709551615
    9223372036854775808
  rw [largest, half] at planned laid
  obtain ⟨windows, found⟩ := planned.mpr (by decide)
  obtain ⟨tiles, ends, -⟩ := laid windows found
  have three : windows.length = 3 := tiles.counted.trans (by decide)
  refine ⟨windows, found, three, ?_, ends, ?_⟩
  · rw [tiles.placed 2 (three ▸ by decide)]
    rfl
  · intro first next one two
    rw [tiles.overlapping 1 first next one two]
    rfl

end Window

end Retrieval
