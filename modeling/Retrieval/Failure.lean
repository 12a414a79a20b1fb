import Retrieval.Http.Status

/-!
# Failures

Why an operation of the library gives no answer.  Each cause is a value; its
wording is in `Failure.message` alone.  An empty retrieval, an unsupported query
mode and an empty generation are answers, not failures.
-/

namespace Retrieval

/-- Parameters or credentials that cannot be used. -/
inductive Misconfiguration where
  | stride (size overlap : Nat)
  | unknownMode (name : String)
  | unknownMetric (name : String)
  | unknownBackend (name : String)
  | unknownTokenizer (name : String)
  | unknownAlgorithm (name : String)
  | missingVariable (name : String)
  | reported (text : String)
  deriving DecidableEq, Repr

/-- What a remote service did instead of answering. -/
inductive TransportFault where
  | status (code : Nat) (body : String)
  | streamed (contentType : String)
  | chunked
  | unreachable (address : String)
  | notJson (address : String)
  | reported (text : String)
  deriving DecidableEq, Repr

inductive Failure where
  | configuration (cause : Misconfiguration)
  | transport (fault : TransportFault)
  | dimensionMismatch (expected actual : Nat)
  | tokenizer (text : String)
  | io
  | serialization
  deriving DecidableEq, Repr

namespace Misconfiguration

def text : Misconfiguration → String
  | .stride size overlap =>
      s!"chunk overlap ({overlap}) must be smaller than chunk size ({size})"
  | .unknownMode name => s!"unknown query mode '{name}'. Use naive, local, or global."
  | .unknownMetric name => s!"unknown vector metric '{name}'. Use cosine or l2."
  | .unknownBackend name => s!"unknown vector storage backend '{name}'. Use memory or file."
  | .unknownTokenizer name => s!"unknown tokenizer '{name}'. Use simple or tiktoken."
  | .unknownAlgorithm name =>
      s!"unsupported clustering algorithm '{name}'. Only connected_components is available."
  | .missingVariable name => s!"{name} environment variable not set"
  | .reported text => text

end Misconfiguration

namespace TransportFault

def text : TransportFault → String
  | .status code body => s!"HTTP {Http.statusText code}: {body}"
  | .streamed contentType => s!"streamed response ({contentType}) is not supported"
  | .chunked => "chunked transfer encoding is not supported"
  | .unreachable address => s!"request to {address} failed"
  | .notJson address => s!"invalid JSON response from {address}"
  | .reported text => text

end TransportFault

namespace Failure

def message : Failure → String
  | .configuration cause => "configuration error: " ++ cause.text
  | .transport fault => "transport error: " ++ fault.text
  | .dimensionMismatch expected actual =>
      s!"embedding dimension mismatch: expected {expected}, got {actual}"
  | .tokenizer text => "tokenizer error: " ++ text
  | .io => "io error"
  | .serialization => "serialization error"

end Failure

end Retrieval
