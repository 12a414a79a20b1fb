import Retrieval.Http.Destination
import Retrieval.Http.Reply

/-!
# Networks

A network answers each connection with one reply and keeps the requests that it
answered.  When no answer is left it refuses; it has no secure connections, and
it knows no host by a name but the local one.  A reply that points elsewhere is
followed there, a limited number of times.
-/

namespace Retrieval

namespace Http

/-- What is asked of an address, perhaps by someone who holds a key; without a body only
the resource itself is asked for. -/
structure Request where
  url : Url
  key : Option String
  body : Option Json

namespace Request

def line (request : Request) : String :=
  (if request.body.isSome then "POST " else "GET ") ++ request.url.target ++ " HTTP/1.1"

/-- The header fields as they are received, without blanks at the ends of their values. -/
def fields (request : Request) : List Field :=
  let authorization (key : String) : Field :=
    ("authorization", String.ofList (Field.trim ("Bearer " ++ key).toList))
  [("accept", "application/json")] ++ (request.key.map authorization).toList ++
    if request.body.isSome then [("content-type", "application/json")] else []

/-- The line, the header fields and the body of a request. -/
def toJson (request : Request) : Json :=
  .record
    [("line", .ofText request.line),
      ("headers", .record (request.fields.map fun field => (field.1, .ofText field.2))),
      ("body", request.body.getD .null)]

/-- The request, if its address can be asked for and its key can stand in a header field. -/
def to? (address key : String) (body : Json) : Option Request := do
  let url ← Url.read? address
  let isFit := url.isAskable (Url.fragmentLength (Url.tidied address)) &&
    key.toList.all Field.isLetter
  if isFit then return ⟨url, some key, some body⟩ else none

end Request

/-! ### Replies that point elsewhere -/

namespace Reply

def isRedirection (code : Nat) : Bool := [301, 302, 303, 307, 308].contains code

/-- Of these, the codes after which the request is repeated as it was. -/
def keepsBody (code : Nat) : Bool := code == 307 || code == 308

/-- Where the reply from an address points, if that can be told. -/
def destination? (reply : Reply) (url : Url) : Option Destination := do
  if isRedirection reply.status then
    url.destination? (← (Field.valuesOf "location" reply.fields).head?)
  else none

end Reply

namespace Request

/-- The request that follows a reply to another address.  The key goes along only to the same
port of the same host. -/
def following (request : Request) (key : Option String) (status : Nat) (url : Url) : Request where
  url := url
  key := if request.url.sharesOrigin url then key else none
  body := if Reply.keepsBody status then request.body else none

end Request

structure Network where
  /-- What the next connections answer; nothing stands for an answer that is no reply. -/
  pending : List (Option Reply) := []
  /-- The requests of the connections that answered, the first one first. -/
  sent : List Request := []

namespace Network

def exchange (network : Network) (request : Request) : Option Reply × Network :=
  match request.url.secure || !request.url.host.isKnown, network.pending with
  | false, answer :: rest =>
      (answer, { pending := rest, sent := network.sent ++ [request] })
  | _, _ => (none, network)

/-- The reply to a request made for the holder of a key, after a number of replies at most
that point elsewhere. -/
def reach (key : Option String) (limit : Nat) (request : Request) (network : Network) :
    Option Reply × Network :=
  match network.exchange request with
  | (none, network) => (none, network)
  | (some reply, network) =>
      match reply.destination? request.url, limit with
      | none, _ => (some reply, network)
      | some (.within url), limit + 1 =>
          reach key limit (request.following key reply.status url) network
      | some _, _ => (none, network)

/-- How many replies that point elsewhere are followed. -/
def redirectionLimit : Nat := 10

end Network

end Http

end Retrieval
