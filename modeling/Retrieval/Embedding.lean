/-!
# Embeddings

An embedding is a list of single-precision numbers.  Every operation is rounded
on its own and sums run in the order of the list, so the order of summation is
part of each definition.
-/

namespace Retrieval

abbrev Embedding := List Float32

namespace Embedding

/-- The sum of products, place by place from the start. -/
def dot (first second : Embedding) : Float32 :=
  (List.zipWith (· * ·) first second).foldl (· + ·) 0.0

/-- The distance between one and the next larger number. -/
def epsilon : Float32 := Float32.ofBits 0x34000000

/-- The cosine of the angle; zero for empty, unequally long and vanishing embeddings. -/
def cosine (first second : Embedding) : Float32 :=
  if first.length ≠ second.length ∨ first = [] then 0.0
  else
    let scale := (dot first first).sqrt * (dot second second).sqrt
    if scale < epsilon then 0.0 else dot first second / scale

/-- The Euclidean distance over the shorter length; the sum starts at negative zero. -/
def distance (first second : Embedding) : Float32 :=
  ((List.zipWith (fun left right => (left - right) * (left - right)) first second).foldl
    (· + ·) (-0.0)).sqrt

def zeros (length : Nat) : Embedding := List.replicate length 0.0

/-- Scaled to length one, unless the length is not above zero. -/
def normalized (embedding : Embedding) : Embedding :=
  let norm := ((embedding.map fun value => value * value).foldl (· + ·) (-0.0)).sqrt
  if 0.0 < norm then embedding.map fun value => value / norm else embedding

end Embedding

end Retrieval
