import Retrieval.Chunk
import Retrieval.Json.Text
import Retrieval.Json.Number

/-!
# Previews

How a text would be cut into chunks, without storing any.
-/

namespace Retrieval

structure Preview where
  order : Nat
  tokens : Nat
  id : ContentId
  snippet : String
  deriving DecidableEq, Repr

namespace Preview

def snippetLength : Nat := 60

def snippetOf (content : String) : String :=
  String.ofList ((content.toList.take snippetLength).map fun character =>
    if character = '\n' then ' ' else character)

def ofChunk (chunk : Chunk) : Preview :=
  ⟨chunk.order, chunk.tokens, chunk.id, snippetOf chunk.content⟩

/-- One preview for each chunk that the text would have. -/
def ofText (tokenizer : Tokenizer) (size overlap : Nat) (text : String) :
    Except Failure (List Preview) :=
  (Chunk.ofDocument tokenizer size overlap (Document.ofText text)).map (List.map ofChunk)

def toJson (preview : Preview) : Json :=
  .record
    [("index", .ofNat preview.order), ("tokens", .ofNat preview.tokens),
      ("id", .ofText preview.id.text), ("snippet", .ofText preview.snippet)]

def padLeft (width : Nat) (text : String) : String :=
  String.ofList (List.replicate (width - text.length) ' ') ++ text

def padRight (width : Nat) (text : String) : String :=
  text ++ String.ofList (List.replicate (width - text.length) ' ')

def lines (preview : Preview) : String :=
  s!"{padLeft 4 (toString preview.order)}  " ++
    s!"tokens={padRight 6 (toString preview.tokens)} {preview.id.text}\n" ++
    s!"      {preview.snippet}\n"

def table : List Preview → String
  | [] => "No chunks.\n"
  | previews => String.join (previews.map lines) ++ s!"chunks: {previews.length}\n"

def listing (previews : List Preview) : String :=
  (Json.array (previews.map toJson)).writeSpread ++ "\n"

end Preview

end Retrieval
