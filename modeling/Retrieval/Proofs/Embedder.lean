import Mathlib.Data.Multiset.MapFold
import Retrieval.Embedder

/-!
# Bags of words

Counting a word changes one bucket, and what happens to a bucket does not depend
on the other buckets.  So two words can be counted in either order, however the
sums are rounded, and the embedding of a text is one of the bag of its first
words.  No bucket lies beyond the counts.
-/

namespace Retrieval

theorem Embedding.length_normalized (embedding : Embedding) :
    embedding.normalized.length = embedding.length := by
  unfold normalized
  dsimp only
  split
  · exact List.length_map _
  · rfl

namespace Embedder

/-! ## Counting -/

def countOne (counts : Array Float32) (index : Nat) : Array Float32 :=
  counts.modify index (· + 1.0)

/-- One more in a bucket that has to be there. -/
def countOne? (counts : Array Float32) (index : Nat) : Option (Array Float32) :=
  if inside : index < counts.size then some (counts.set index (counts[index] + 1.0) inside)
  else none

theorem countBuckets_eq (dimension : Nat) (buckets : List Nat) :
    countBuckets dimension buckets = buckets.foldl countOne (Array.replicate dimension 0.0) :=
  rfl

@[simp] theorem size_countOne (counts : Array Float32) (index : Nat) :
    (countOne counts index).size = counts.size :=
  Array.size_modify

/-- Two buckets are counted up independently, and one bucket twice in the same way. -/
theorem countOne_comm (counts : Array Float32) (index other : Nat) :
    countOne (countOne counts index) other = countOne (countOne counts other) index := by
  -- Each place sees the same additions to its own number, so no law of sums is needed.
  apply Array.ext_getElem?
  intro place
  simp only [countOne, Array.getElem?_modify]
  by_cases here : index = place <;> by_cases there : other = place <;> simp [here, there]

instance : RightCommutative countOne := ⟨countOne_comm⟩

theorem size_foldl_countOne (counts : Array Float32) (buckets : List Nat) :
    (buckets.foldl countOne counts).size = counts.size := by
  induction buckets generalizing counts with
  | nil => rfl
  | cons index rest ih => rw [List.foldl_cons, ih, size_countOne]

theorem countOne?_of_lt {counts : Array Float32} {index : Nat} (inside : index < counts.size) :
    countOne? counts index = some (countOne counts index) := by
  rw [countOne?, dif_pos inside, Option.some.injEq]
  apply Array.ext_getElem?
  intro place
  rw [countOne, Array.getElem?_modify, Array.getElem?_set]
  by_cases here : index = place
  · subst here
    simp [inside]
  · simp [here]

theorem foldlM_countOne? {counts : Array Float32} {buckets : List Nat}
    (inside : ∀ index ∈ buckets, index < counts.size) :
    buckets.foldlM countOne? counts = some (buckets.foldl countOne counts) := by
  induction buckets generalizing counts with
  | nil => rfl
  | cons index rest ih =>
      have first := countOne?_of_lt (inside index List.mem_cons_self)
      have later : ∀ other ∈ rest, other < (countOne counts index).size := by
        intro other member
        rw [size_countOne]
        exact inside other (List.mem_cons_of_mem _ member)
      rw [List.foldlM_cons, first, List.foldl_cons]
      exact ih later

/-! ## Embeddings -/

variable {dimension : Nat}

theorem bucket_lt (positive : dimension ≠ 0) (word : String) : bucket dimension word < dimension :=
  Nat.mod_lt _ (Nat.pos_of_ne_zero positive)

/-- The normalized bucket counts of a bag of words. -/
def hashBag (dimension : Nat) (bag : Multiset String) : Embedding :=
  if dimension = 0 then []
  else
    Embedding.normalized
      ((bag.map (bucket dimension)).foldl countOne (Array.replicate dimension 0.0)).toList

theorem hashText_eq_hashBag (dimension tokenLimit : Nat) (text : String) :
    hashText dimension tokenLimit text = hashBag dimension ((Text.words text).take tokenLimit) :=
  rfl

theorem length_hashText (dimension tokenLimit : Nat) (text : String) :
    (hashText dimension tokenLimit text).length = dimension := by
  unfold hashText
  split
  · next none => exact none.symm
  · rw [Embedding.length_normalized, Array.length_toList, countBuckets_eq, size_foldl_countOne,
      Array.size_replicate]

/-- The embedding of a text, if every bucket that is counted is there. -/
def hashText? (dimension tokenLimit : Nat) (text : String) : Option Embedding :=
  if dimension = 0 then some []
  else
    let buckets := ((Text.words text).take tokenLimit).map (bucket dimension)
    (buckets.foldlM countOne? (Array.replicate dimension 0.0)).map fun counts =>
      Embedding.normalized counts.toList

theorem hashText?_eq (dimension tokenLimit : Nat) (text : String) :
    hashText? dimension tokenLimit text = some (hashText dimension tokenLimit text) := by
  unfold hashText? hashText
  split
  · rfl
  · next positive =>
    have inside : ∀ index ∈ ((Text.words text).take tokenLimit).map (bucket dimension),
        index < (Array.replicate dimension (0.0 : Float32)).size := by
      intro index member
      obtain ⟨word, -, rfl⟩ := List.mem_map.mp member
      rw [Array.size_replicate]
      exact bucket_lt positive word
    dsimp only
    rw [foldlM_countOne? inside, ← countBuckets_eq]
    rfl

/-- Texts are embedded by the bags of their first words, so texts whose first words are the same
in another order have the same embedding.  Each embedding has the length of the embedder, also if
that is zero, and no word is counted in a bucket that is not there. -/
theorem hashed_embeds_bags {σ : Type} (dimension tokenLimit : Nat) :
    (∀ texts outside, (hashed σ dimension tokenLimit).embed texts outside =
      (.ok (texts.map fun text => hashBag dimension ((Text.words text).take tokenLimit)),
        outside)) ∧
    (∀ text other, ((Text.words text).take tokenLimit).Perm ((Text.words other).take tokenLimit) →
      hashText dimension tokenLimit text = hashText dimension tokenLimit other) ∧
    (∀ text, (hashText dimension tokenLimit text).length = dimension) ∧
    ∀ text, hashText? dimension tokenLimit text = some (hashText dimension tokenLimit text) := by
  refine ⟨fun _ _ => rfl, ?_, length_hashText dimension tokenLimit,
    hashText?_eq dimension tokenLimit⟩
  intro text other same
  rw [hashText_eq_hashBag, hashText_eq_hashBag, Multiset.coe_eq_coe.mpr same]

/-- Blanks of several kinds, another order and another third word. -/
theorem hashed_embeds_bags_of_exchanged :
    hashText 3 2 "a\u2003b c" = hashText 3 2 "\tb\na d" ∧
      (hashText 3 2 "a\u2003b c").length = 3 := by
  have words : Text.words "a\u2003b c" = ["a", "b", "c"] := by decide +kernel
  have others : Text.words "\tb\na d" = ["b", "a", "d"] := by decide +kernel
  have exchanged : ((Text.words "a\u2003b c").take 2).Perm ((Text.words "\tb\na d").take 2) := by
    rw [words, others]
    exact List.Perm.swap "b" "a" []
  obtain ⟨-, same, lengths, -⟩ := hashed_embeds_bags (σ := Unit) 3 2
  exact ⟨same _ _ exchanged, lengths _⟩

end Embedder

end Retrieval
