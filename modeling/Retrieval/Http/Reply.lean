import Retrieval.Failure
import Retrieval.Http.Transfer
import Retrieval.Json.Record

/-!
# Replies

What comes back for a request: a status code, header fields and a body.  It is
read from the text on the connection, where replies that announce another one
may come first.  The JSON value of a reply is taken only from one complete body
that a successful reply carries; of several objections the first counts, in the
order status, streamed type, chunked encoding, body that is not JSON.
-/

namespace Retrieval

namespace Http

structure Reply where
  status : Nat
  fields : List Field
  body : String
  deriving DecidableEq, Repr

namespace Reply

/-! ### As it is sent -/

/-- The text with which a connection answers.  The sender adds how long the body is, unless
its fields give an encoding for the body, and that nothing comes after it. -/
def sent (status : String) (fields : List Field) (body : String) : String :=
  let isEncoded := !(Field.valuesOf "transfer-encoding" fields).isEmpty
  let length := if isEncoded then [] else [("Content-Length", toString body.utf8ByteSize)]
  "HTTP/1.1 " ++ status ++ "\r\n" ++
    String.join ((fields ++ length ++ [("Connection", "close")]).map Field.line) ++ "\r\n" ++
    if isEncoded then chunk body else body

/-! ### As it is received -/

def afterEmptyLines : List Char → List Char
  | '\n' :: rest => afterEmptyLines rest
  | '\r' :: '\n' :: rest => afterEmptyLines rest
  | text => text

/-- The code of a status: three digits, and perhaps a phrase behind a blank. -/
def code? (status : List Char) : Option Nat :=
  let digits := status.takeWhile (· != ' ')
  if digits.length = 3 ∧ digits.all Char.isDigit ∧ status.all Field.isLetter then
    some (Digits.number digits)
  else none

/-- The code of a status line, and whether the message is of the newer version. -/
def status? : List Char → Option (Nat × Bool)
  | 'H' :: 'T' :: 'T' :: 'P' :: '/' :: '1' :: '.' :: minor :: ' ' :: status => do
      let code ← code? status
      if (minor = '0' ∨ minor = '1') ∧ 100 ≤ code then return (code, minor = '1') else none
  | _ => none

/-- A code that announces another reply in the place of giving one. -/
def isInterim (code : Nat) : Bool := code < 200 && code != 101

def isBodiless (code : Nat) : Bool := code == 101 || code == 204 || code == 304

/-- The reply that the text on a connection holds. -/
def read? (text : List Char) : Option Reply := do
  match ← Field.lines? [] (afterEmptyLines text) with
  | ([], _) => none
  | (first :: lines, rest) =>
      let (code, isNew) ← status? first
      let fields ← lines.mapM Field.ofLine?
      if Field.limit < fields.length then none
      else if isInterim code then if rest.length < text.length then read? rest else none
      else if isBodiless code then return ⟨code, fields, ""⟩
      else return ⟨code, fields, (← Framing.of? isNew fields).body rest⟩
termination_by text.length

/-! ### As it is understood -/

/-- The value of the first header field of a name, if it is plain text. -/
def field? (reply : Reply) (name : String) : Option String :=
  (Field.valuesOf name reply.fields).head?.bind Field.visible?

/-- The media type of the body, in small letters; empty if it is not told. -/
def contentType (reply : Reply) : String := ((reply.field? "content-type").getD "").toLower

def streamTypes : List String := ["text/event-stream", "application/x-ndjson"]

def isStreamed (reply : Reply) : Bool :=
  streamTypes.any fun type => type.toList.isPrefixOf reply.contentType.toList

def mentions (word : List Char) : List Char → Bool
  | [] => word.isEmpty
  | first :: rest => word.isPrefixOf (first :: rest) || mentions word rest

def isChunked (reply : Reply) : Bool :=
  match reply.field? "transfer-encoding" with
  | none => false
  | some encoding => mentions "chunked".toList encoding.toLower.toList

/-- The value that the reply from an address carries. -/
def json (reply : Reply) (address : String) : Except TransportFault Json :=
  if !isSuccess reply.status then .error (.status reply.status reply.body)
  else if reply.isStreamed then .error (.streamed reply.contentType)
  else if reply.isChunked then .error .chunked
  else
    match Json.readPlain? reply.body with
    | none => .error (.notJson address)
    | some value => .ok value

end Reply

end Http

end Retrieval
