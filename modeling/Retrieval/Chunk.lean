import Retrieval.ContentId
import Retrieval.Table
import Retrieval.Tokenizer

/-!
# Documents and their chunks

A document is cut into token windows, and each window that gets its text back
is a chunk.  Documents are cut on their own.  Chunks with the same text share
an identifier, and of those the last one is kept.
-/

namespace Retrieval

structure Document where
  id : ContentId
  content : String
  deriving DecidableEq, Repr

namespace Document

def ofText (content : String) : Document := ⟨ContentId.forDocument content, content⟩

end Document

structure Chunk where
  /-- How many tokens its window holds. -/
  tokens : Nat
  content : String
  document : ContentId
  /-- The place of its window among the windows of the document. -/
  order : Nat
  deriving DecidableEq, Repr

namespace Chunk

def id (chunk : Chunk) : ContentId := ContentId.forChunk chunk.content

def ofDocument (tokenizer : Tokenizer) (size overlap : Nat) (document : Document) :
    Except Failure (List Chunk) := do
  let tokens := tokenizer.encode document.content
  let windows ← Window.plan tokens.length size overlap
  if windows.isEmpty then return []
  let texts ← tokenizer.decode document.content
    (windows.map fun window => (window, window.slice tokens))
  return (texts.zip windows).mapIdx fun order entry =>
    ⟨entry.2.length, entry.1, document.id, order⟩

/-- The chunks of several documents by identifier, a later chunk over an earlier one. -/
def tableOf (tokenizer : Tokenizer) (size overlap : Nat) (documents : List Document) :
    Except Failure (Table String Chunk) := do
  let chunks ← documents.mapM (ofDocument tokenizer size overlap)
  return Table.ofList (chunks.flatten.map fun chunk => (chunk.id.text, chunk))

end Chunk

end Retrieval
