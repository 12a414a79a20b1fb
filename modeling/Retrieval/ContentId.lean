import Retrieval.Digest.Sha256

/-!
# Identifiers made from content

The identifier of a document or a chunk is the digest of its text behind a word
that tells the two apart.  Equal texts get equal identifiers, so storing a text
again replaces its record.
-/

namespace Retrieval

structure ContentId where
  text : String
  deriving DecidableEq, Repr, Inhabited

namespace ContentId

def hashed (kind content : String) : ContentId :=
  ⟨kind ++ Sha256.hexadecimal (Sha256.digestText content)⟩

def forDocument (content : String) : ContentId := hashed "doc-" content

/-- The identifier of a chunk, whatever document it was cut from. -/
def forChunk (content : String) : ContentId := hashed "chunk-" content

end ContentId

end Retrieval
