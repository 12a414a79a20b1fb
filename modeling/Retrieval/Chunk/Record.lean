import Retrieval.Chunk
import Retrieval.Json.Record

/-!
# Documents and chunks as JSON records
-/

namespace Retrieval

namespace ContentId

def toJson (id : ContentId) : Json := .ofText id.text

/-- Any text is taken as an identifier. -/
def ofJson? (json : Json) : Option ContentId := json.text?.map ContentId.mk

end ContentId

namespace Document

def fieldNames : List String := ["id", "content"]

def toJson (document : Document) : Json :=
  .record [("id", document.id.toJson), ("content", .ofText document.content)]

def ofJson? (json : Json) : Option Document := do
  let members ← json.members? fieldNames
  return {
    id := ← members.required? "id" ContentId.ofJson?
    content := ← members.required? "content" Json.text? }

end Document

namespace Chunk

def fieldNames : List String := ["tokens", "content", "full_doc_id", "chunk_order_index"]

def toJson (chunk : Chunk) : Json :=
  .record
    [("tokens", .ofNat chunk.tokens),
      ("content", .ofText chunk.content),
      ("full_doc_id", chunk.document.toJson),
      ("chunk_order_index", .ofNat chunk.order)]

def ofJson? (json : Json) : Option Chunk := do
  let members ← json.members? fieldNames
  return {
    tokens := ← members.required? "tokens" Json.natural64?
    content := ← members.required? "content" Json.text?
    document := ← members.required? "full_doc_id" ContentId.ofJson?
    order := ← members.required? "chunk_order_index" Json.natural64? }

end Chunk

end Retrieval
