import Retrieval.Digest.Sha256
import Retrieval.Embedding
import Retrieval.Failure
import Retrieval.Text.Blank

/-!
# Embedders

An embedder turns a batch of texts into embeddings.  It may depend on and change
the world outside, whose type is a parameter; nothing forces it to answer with
as many embeddings as texts.  The hash embedder counts words in buckets and
depends on nothing.
-/

namespace Retrieval

structure Embedder (σ : Type) where
  model : String
  /-- The length of the embeddings; zero if it is not known before the first one. -/
  dimension : Nat
  /-- How many tokens of a text are looked at. -/
  tokenLimit : Nat
  embed : List String → σ → Except Failure (List Embedding) × σ

namespace Embedder

/-- The number that a list of bytes writes, the least significant first. -/
def littleEndian (bytes : List UInt8) : Nat :=
  bytes.foldr (fun byte number => byte.toNat + 256 * number) 0

/-- The bucket of a word: the first eight bytes of its digest, by the number of buckets. -/
def bucket (dimension : Nat) (word : String) : Nat :=
  littleEndian ((Sha256.digestText word).take 8) % dimension

def countBuckets (dimension : Nat) (buckets : List Nat) : Array Float32 :=
  buckets.foldl (fun counts index => counts.modify index (· + 1.0))
    (Array.replicate dimension 0.0)

/-- The normalized bucket counts of the first words of a text. -/
def hashText (dimension tokenLimit : Nat) (text : String) : Embedding :=
  if dimension = 0 then []
  else
    let buckets := ((Text.words text).take tokenLimit).map (bucket dimension)
    Embedding.normalized (countBuckets dimension buckets).toList

def hashed (σ : Type) (dimension tokenLimit : Nat) : Embedder σ where
  model := "hash"
  dimension := dimension
  tokenLimit := tokenLimit
  embed := fun texts outside => (.ok (texts.map (hashText dimension tokenLimit)), outside)

def defaultDimension : Nat := 256

def defaultTokenLimit : Nat := 8192

end Embedder

end Retrieval
