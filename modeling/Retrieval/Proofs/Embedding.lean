import Retrieval.Index.Options
import Retrieval.Proofs.Number.Sign

/-!
# Scores of finite embeddings

The Euclidean score of two finite embeddings is a number, even where the
distance is infinite: sums of squares are not below zero.  The cosine of two
finite embeddings is none where it divides infinity by infinity.
-/

namespace Retrieval

variable {first second : Embedding}

theorem Embedding.sign_distance (left : first.all Float32.isFinite = true)
    (right : second.all Float32.isFinite = true) :
    Single.sign (first.distance second) ≠ none := by
  refine Single.sign_sqrt (Single.raised_sum ?_ (.zero .negative))
  intro square member
  rw [← List.map_uncurry_zip_eq_zipWith] at member
  obtain ⟨⟨value, other⟩, paired, rfl⟩ := List.mem_map.mp member
  obtain ⟨inFirst, inSecond⟩ := List.of_mem_zip paired
  have difference : Single.sign (value - other) ≠ none :=
    Single.sign_sub (List.all_eq_true.mp left value inFirst)
      (List.all_eq_true.mp right other inSecond)
  exact Single.raised_mul_self difference

theorem Metric.isNaN_score_euclidean (left : first.all Float32.isFinite = true)
    (right : second.all Float32.isFinite = true) :
    (Metric.euclidean.score first second).isNaN = false :=
  Single.isNaN_eq_false_of_sign
    (Single.sign_one_div (Single.sign_one_add (Embedding.sign_distance left right)))

end Retrieval
